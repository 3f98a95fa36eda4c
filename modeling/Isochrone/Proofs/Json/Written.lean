import Isochrone.Json.Document
import Isochrone.Proofs.Json.Literals

/-!
# Written values read back

The text of a value presents the document of that value, and nothing behind it. This is so for
values whose numbers are integers, nested no deeper than a reader goes: going through the text of
a value puts its document in the place where the value stands, whatever is open around it.
-/

namespace Isochrone.Json

open Document (Progress Level step place takeValue maxDepth)

/-- No number with a point stands in a value, and at most `depth` of its brackets are open at
once. -/
inductive Value.Whole : Nat → Value → Prop where
  | null (depth : Nat) : Whole depth .null
  | bool (depth : Nat) (b : Bool) : Whole depth (.bool b)
  | integer (depth : Nat) {n : Int} (fits : Fits64 n) : Whole depth (.number (.integer n fits))
  | string (depth : Nat) (s : String) : Whole depth (.string s)
  | array {depth : Nat} {items : List Value} (h : ∀ item ∈ items, Whole depth item) :
    Whole (depth + 1) (.array items)
  | object {depth : Nat} {members : List (String × Value)}
    (h : ∀ member ∈ members, Whole depth member.2) : Whole (depth + 1) (.object members)

namespace Document

/-- How far one is after a text. -/
def run (cs : List Char) (progress : Progress) : Progress := (Token.scan cs).foldl step progress

/-- A token that is scanned first is the first step of a run. -/
theorem run_of_scan {cs rest : List Char} {token : Token}
    (h : Token.scan cs = token :: Token.scan rest) (progress : Progress) :
    run cs progress = run rest (step progress token) := by
  rw [run, h, List.foldl_cons, run]

theorem run_openArray (cs : List Char) (progress : Progress) :
    run ('[' :: cs) progress = run cs (step progress .openArray) :=
  run_of_scan (by rw [Token.scan]) progress

theorem run_closeArray (cs : List Char) (progress : Progress) :
    run (']' :: cs) progress = run cs (step progress .closeArray) :=
  run_of_scan (by rw [Token.scan]) progress

theorem run_openObject (cs : List Char) (progress : Progress) :
    run ('\x7b' :: cs) progress = run cs (step progress .openObject) :=
  run_of_scan (by rw [Token.scan]) progress

theorem run_closeObject (cs : List Char) (progress : Progress) :
    run ('\x7d' :: cs) progress = run cs (step progress .closeObject) :=
  run_of_scan (by rw [Token.scan]) progress

theorem run_comma (cs : List Char) (progress : Progress) :
    run (',' :: cs) progress = run cs (step progress .comma) :=
  run_of_scan (by rw [Token.scan]) progress

theorem run_colon (cs : List Char) (progress : Progress) :
    run (':' :: cs) progress = run cs (step progress .colon) :=
  run_of_scan (by rw [Token.scan]) progress

/-- A text in quotes is one token, whatever it holds. -/
theorem run_string (s : String) (cs : List Char) (progress : Progress) :
    run (Value.stringChars s ++ cs) progress = run cs (step progress (.string (.ok s))) :=
  run_of_scan (Token.scan_stringChars s cs) progress

/-- The word for nothing is one token. -/
theorem run_null (cs : List Char) (progress : Progress) :
    run ("null".toList ++ cs) progress = run cs (step progress .null) := by
  refine run_of_scan ?_ progress
  have hword : "null".toList ++ cs = 'n' :: 'u' :: 'l' :: 'l' :: cs := rfl
  rw [hword, Token.scan]
  rfl

/-- The words for flags are one token each. -/
theorem run_bool (b : Bool) (cs : List Char) (progress : Progress) :
    run ((Value.bool b).chars ++ cs) progress = run cs (step progress (.bool b)) := by
  refine run_of_scan ?_ progress
  cases b with
  | true =>
    have hword : (Value.bool true).chars ++ cs = 't' :: 'r' :: 'u' :: 'e' :: cs := rfl
    rw [hword, Token.scan]
    rfl
  | false =>
    have hword : (Value.bool false).chars ++ cs = 'f' :: 'a' :: 'l' :: 's' :: 'e' :: cs := rfl
    rw [hword, Token.scan]
    rfl

/-- What follows an item or a member does not continue a number. -/
theorem endsNumber_itemChars (items : List Value) (rest : List Char) :
    Token.EndsNumber (Value.itemChars items ++ rest) := by
  cases items <;> rintro c ⟨⟩ <;> decide

/-- A number ends where members go on or end. -/
theorem endsNumber_memberChars (members : List (String × Value)) (rest : List Char) :
    Token.EndsNumber (Value.memberChars members ++ rest) := by
  cases members <;> rintro c ⟨⟩ <;> decide

/-- Where a value must stand, every token begins one. -/
theorem step_value (levels : List Level) (token : Token) :
    step (.expecting .value levels) token = takeValue token levels := rfl

/-- At the start of an array, every token but its end begins a value. -/
theorem step_firstItem (deep : Bool) (levels : List Level) {token : Token}
    (h : token ≠ .closeArray) :
    step (.expecting .firstItem (.array deep [] :: levels)) token =
      takeValue token (.array deep [] :: levels) := by
  cases token with
  | closeArray => exact absurd rfl h
  | _ => rfl

/-- A reader that may still enter brackets enters an array. -/
theorem takeValue_openArray {levels : List Level} (h : levels.length < maxDepth) :
    takeValue .openArray levels = .expecting .firstItem (.array false [] :: levels) := by
  rw [takeValue, decide_eq_false (Nat.not_le.mpr h)]

/-- A bracket opens an object as long as the depth allows it. -/
theorem takeValue_openObject {levels : List Level} (h : levels.length < maxDepth) :
    takeValue .openObject levels = .expecting .firstKey (.object false [] :: levels) := by
  rw [takeValue, decide_eq_false (Nat.not_le.mpr h)]

mutual

/-- The text of a value puts its document where a value may stand. -/
theorem run_chars (v : Value) {depth : Nat} (hv : v.Whole depth) {levels : List Level}
    (hdepth : levels.length + depth ≤ maxDepth) {progress : Progress}
    (hvalue : ∀ token, token ≠ .closeArray → step progress token = takeValue token levels)
    {rest : List Char} (hrest : Token.EndsNumber rest) :
    run (v.chars ++ rest) progress = run rest (place (ofValue v) levels) := by
  match v, hv with
  | .null, _ =>
    rw [Value.chars, run_null, hvalue _ (by simp)]
    rfl
  | .bool b, _ =>
    rw [run_bool, hvalue _ (by simp)]
    rfl
  | .number (.integer n fits), _ =>
    obtain ⟨literal, hliteral, hscan⟩ := Token.scan_integer fits hrest
    rw [Value.chars, run_of_scan hscan, hvalue _ (by simp)]
    simp only [takeValue, hliteral, Option.elim_some]
    rfl
  | .string s, _ =>
    rw [Value.chars, run_string, hvalue _ (by simp)]
    rfl
  | .array [], .array _ =>
    have hchars : (Value.array []).chars ++ rest = '[' :: ']' :: rest := rfl
    rw [hchars, run_openArray, hvalue _ (by simp), takeValue_openArray (by omega),
      run_closeArray]
    rfl
  | .array (item :: items), .array h =>
    obtain ⟨hitem, hitems⟩ := List.forall_mem_cons.mp h
    have hchars : (Value.array (item :: items)).chars ++ rest =
        '[' :: (item.chars ++ (Value.itemChars items ++ rest)) := by
      rw [Value.chars, List.cons_append, List.append_assoc]
    rw [hchars, run_openArray, hvalue _ (by simp), takeValue_openArray (by omega),
      run_chars item hitem (by simp only [List.length_cons]; omega)
        (fun token => step_firstItem false levels) (endsNumber_itemChars items rest)]
    exact run_itemChars items hitems (by omega) [ofValue item]
  | .object [], .object _ =>
    have hchars : (Value.object []).chars ++ rest = '\x7b' :: '\x7d' :: rest := rfl
    rw [hchars, run_openObject, hvalue _ (by simp), takeValue_openObject (by omega),
      run_closeObject]
    rfl
  | .object ((key, value) :: members), .object h =>
    obtain ⟨hmember, hmembers⟩ := List.forall_mem_cons.mp h
    have hchars : (Value.object ((key, value) :: members)).chars ++ rest =
        '\x7b' :: (Value.stringChars key ++
          ':' :: (value.chars ++ (Value.memberChars members ++ rest))) := by
      simp only [Value.chars, List.cons_append, List.append_assoc]
    rw [hchars, run_openObject, hvalue _ (by simp), takeValue_openObject (by omega)]
    exact (run_member key value hmember (by omega) [] rfl members).trans
      (run_memberChars members hmembers (by omega) [(.ok key, ofValue value)])

/-- The later items of an array end it with all of them in their order. -/
theorem run_itemChars (items : List Value) {depth : Nat} (h : ∀ item ∈ items, item.Whole depth)
    {levels : List Level} (hdepth : levels.length + 1 + depth ≤ maxDepth) (done : List Document)
    {rest : List Char} :
    run (Value.itemChars items ++ rest) (.expecting .separator (.array false done :: levels)) =
      run rest (place (.array .sound (done.reverse ++ ofItems items)) levels) := by
  match items with
  | [] =>
    have hchars : Value.itemChars [] ++ rest = ']' :: rest := rfl
    rw [hchars, run_closeArray, ofItems, List.append_nil]
    rfl
  | item :: items =>
    obtain ⟨hitem, hitems⟩ := List.forall_mem_cons.mp h
    have hchars : Value.itemChars (item :: items) ++ rest =
        ',' :: (item.chars ++ (Value.itemChars items ++ rest)) := by
      rw [Value.itemChars, List.cons_append, List.append_assoc]
    have hcomma : step (.expecting .separator (.array false done :: levels)) .comma =
        .expecting .value (.array false done :: levels) := rfl
    rw [hchars, run_comma, hcomma, run_chars item hitem (by simp only [List.length_cons]; omega)
      (fun token _ => step_value _ token) (endsNumber_itemChars items rest), ofItems,
      List.append_cons, ← List.reverse_cons]
    exact run_itemChars items hitems hdepth (ofValue item :: done)

/-- A key and its value join the members of an object. -/
theorem run_member (key : String) (value : Value) {depth : Nat} (hv : value.Whole depth)
    {levels : List Level} (hdepth : levels.length + 1 + depth ≤ maxDepth)
    (done : List (Except Fault String × Document)) {progress : Progress}
    (hkey : step progress (.string (.ok key)) =
      .expecting (.colon (.ok key)) (.object false done :: levels))
    (members : List (String × Value)) {rest : List Char} :
    run (Value.stringChars key ++
        ':' :: (value.chars ++ (Value.memberChars members ++ rest))) progress =
      run (Value.memberChars members ++ rest)
        (.expecting .separator (.object false ((.ok key, ofValue value) :: done) :: levels)) := by
  have hcolon : step (.expecting (.colon (.ok key)) (.object false done :: levels)) .colon =
      .expecting .value (.member false done (.ok key) :: levels) := rfl
  rw [run_string, hkey, run_colon, hcolon,
    run_chars value hv (by simp only [List.length_cons]; omega)
      (fun token _ => step_value _ token) (endsNumber_memberChars members rest)]
  rfl

/-- The later members of an object end it with all of them in their order. -/
theorem run_memberChars (members : List (String × Value)) {depth : Nat}
    (h : ∀ member ∈ members, member.2.Whole depth) {levels : List Level}
    (hdepth : levels.length + 1 + depth ≤ maxDepth)
    (done : List (Except Fault String × Document)) {rest : List Char} :
    run (Value.memberChars members ++ rest)
        (.expecting .separator (.object false done :: levels)) =
      run rest (place (.object .sound (done.reverse ++ ofMembers members)) levels) := by
  match members with
  | [] =>
    have hchars : Value.memberChars [] ++ rest = '\x7d' :: rest := rfl
    rw [hchars, run_closeObject, ofMembers, List.append_nil]
    rfl
  | (key, value) :: members =>
    obtain ⟨hmember, hmembers⟩ := List.forall_mem_cons.mp h
    have hchars : Value.memberChars ((key, value) :: members) ++ rest =
        ',' :: (Value.stringChars key ++
          ':' :: (value.chars ++ (Value.memberChars members ++ rest))) := by
      simp only [Value.memberChars, List.cons_append, List.append_assoc]
    have hcomma : step (.expecting .separator (.object false done :: levels)) .comma =
        .expecting .key (.object false done :: levels) := rfl
    have hdone : done.reverse ++ ofMembers ((key, value) :: members) =
        ((.ok key, ofValue value) :: done).reverse ++ ofMembers members := by
      rw [ofMembers, List.append_cons, ← List.reverse_cons]
    rw [hchars, run_comma, hcomma, hdone]
    exact (run_member key value hmember hdepth done rfl members).trans
      (run_memberChars members hmembers hdepth ((.ok key, ofValue value) :: done))

end

/-- The text of a value presents the document of the value. -/
theorem ofText_text {v : Value} {depth : Nat} (hv : v.Whole depth) (hdepth : depth ≤ maxDepth) :
    ofText v.text = ⟨ofValue v, false⟩ := by
  have hrun : run (v.chars ++ []) (.expecting .value []) = run [] (place (ofValue v) []) :=
    run_chars v hv (by simpa using hdepth) (fun token _ => step_value [] token) (by rintro c ⟨⟩)
  rw [List.append_nil, run, run, Token.scan] at hrun
  rw [ofText, Value.text, String.toList_ofList]
  exact congrArg Progress.presented hrun

end Document

end Isochrone.Json
