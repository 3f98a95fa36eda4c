import Isochrone.Json.Number
import Isochrone.Text.Hex

/-!
# JSON tokens

A text is cut into tokens up to the place where it stops being JSON, which the last token
then marks. A reader that wants the value and one that only skips it can disagree about
such a place, so both their reports are kept: a skipped string may hold half a surrogate
pair, and a skipped number that breaks off at the end of the text is malformed rather than
unfinished.
-/

namespace Isochrone.Json

/-- The two ways a text can fail to be JSON. -/
inductive Fault where
  /-- Something stands where it must not. -/
  | malformed
  /-- The text ends too early. -/
  | unfinished
  deriving DecidableEq, Repr

/-- A place where a text stops being JSON. -/
structure Break where
  /-- What a reader that wants the value reports. -/
  whenRead : Fault
  /-- What a reader that skips the value reports. -/
  whenSkipped : Fault
  deriving DecidableEq, Repr

/-- The same report to both readers. -/
def Fault.break (f : Fault) : Break := ⟨f, f⟩

/-- A token. -/
inductive Token where
  | openArray
  | closeArray
  | openObject
  | closeObject
  | comma
  | colon
  | null
  | bool (b : Bool)
  | number (literal : Literal)
  /-- A string literal, with a fault if it can be skipped but not read. -/
  | string (content : Except Fault String)
  /-- The text breaks off, `quoted` inside a string literal. -/
  | broken (quoted : Bool) (place : Break)
  deriving Repr

namespace Token

/-- The blanks between tokens. -/
def isBlank (c : Char) : Bool := c = ' ' || c = '\n' || c = '\t' || c = '\r'

/-- The UTF-16 unit of four hexadecimal digits. -/
def hexUnit? (a b c d : Char) : Option Nat := do
  let high := (← Text.hexValue? a) * 16 + (← Text.hexValue? b)
  let low := (← Text.hexValue? c) * 16 + (← Text.hexValue? d)
  return high * 256 + low

/-- The character after a backslash, hexadecimal escapes aside. -/
def escaped? : Char → Option Char
  | '"' => some '"'
  | '\\' => some '\\'
  | '/' => some '/'
  | 'b' => some '\x08'
  | 'f' => some '\x0c'
  | 'n' => some '\n'
  | 'r' => some '\r'
  | 't' => some '\t'
  | _ => none

/-- What is wrong with a hexadecimal escape that lacks digits: the text ends too early if
fewer than four bytes of it are left. -/
def shortEscape (rest : List Char) : Fault :=
  if (String.ofList rest).utf8ByteSize < 4 then .unfinished else .malformed

/-- The first and second halves of surrogate pairs. -/
def isHighSurrogate (unit : Nat) : Bool := 0xd800 ≤ unit && unit < 0xdc00

@[inherit_doc isHighSurrogate]
def isLowSurrogate (unit : Nat) : Bool := 0xdc00 ≤ unit && unit < 0xe000

/-- The character of a surrogate pair. -/
def pairChar (high low : Nat) : Char :=
  Char.ofNat ((high - 0xd800) * 0x400 + (low - 0xdc00) + 0x10000)

/-- The characters of a string literal whose opening quote has been passed. -/
def content : List Char → Except Fault (List Char)
  | [] => .error .unfinished
  | '"' :: _ => .ok []
  | ['\\'] => .error .unfinished
  | '\\' :: 'u' :: a :: b :: c :: d :: rest =>
    match hexUnit? a b c d with
    | none => .error .malformed
    | some unit =>
      if isLowSurrogate unit then .error .malformed
      else if isHighSurrogate unit then
        match rest with
        | '\\' :: 'u' :: a :: b :: c :: d :: rest =>
          match hexUnit? a b c d with
          | none => .error .malformed
          | some low =>
            if isLowSurrogate low then (pairChar unit low :: ·) <$> content rest
            else .error .malformed
        | '\\' :: 'u' :: rest => .error (shortEscape rest)
        | ['\\'] => .error .unfinished
        | [] => .error .unfinished
        | _ => .error .malformed
      else (Char.ofNat unit :: ·) <$> content rest
  | '\\' :: 'u' :: rest => .error (shortEscape rest)
  | '\\' :: c :: rest =>
    match escaped? c with
    | some e => (e :: ·) <$> content rest
    | none => .error .malformed
  | c :: rest => if c.toNat < 0x20 then .error .malformed else (c :: ·) <$> content rest

/-- What follows a string literal whose opening quote has been passed; escapes are only
checked for their form. -/
def skipString : List Char → Except Fault (List Char)
  | [] => .error .unfinished
  | '"' :: rest => .ok rest
  | ['\\'] => .error .unfinished
  | '\\' :: 'u' :: a :: b :: c :: d :: rest =>
    if (hexUnit? a b c d).isSome then skipString rest else .error .malformed
  | '\\' :: 'u' :: rest => .error (shortEscape rest)
  | '\\' :: c :: rest => if (escaped? c).isSome then skipString rest else .error .malformed
  | c :: rest => if c.toNat < 0x20 then .error .malformed else skipString rest

/-- A string literal leaves less than it was given. -/
theorem length_skipString_lt {cs rest : List Char} (h : skipString cs = .ok rest) :
    rest.length < cs.length := by
  fun_induction skipString cs with
  | case1 => simp at h
  | case2 => simp_all
  | case3 => simp at h
  | case4 a b c d r hsome ih => have := ih h; simp; omega
  | case5 => simp at h
  | case6 => simp at h
  | case7 c r _ _ hsome ih => have := ih h; simp; omega
  | case8 => simp at h
  | case9 => simp at h
  | case10 c r _ _ _ _ _ _ ih => have := ih h; simp; omega

/-- What is wrong where a digit is missing. -/
def missingDigit (rest : List Char) : Break :=
  if rest.isEmpty then ⟨.unfinished, .malformed⟩ else Fault.malformed.break

/-- The exponent part of a number, if there is one. -/
def scanExponent : List Char → Except Break (Option Int × List Char)
  | [] => .ok (none, [])
  | c :: rest =>
    if c = 'e' ∨ c = 'E' then
      let (negative, rest) := Binary64.spanSign rest
      match Binary64.spanDigits rest with
      | ([], rest) => .error (missingDigit rest)
      | (digits, rest) =>
        let n : Int := Binary64.digitsValue digits
        .ok (some (if negative then -n else n), rest)
    else .ok (none, c :: rest)

/-- The fraction part of a number, if there is one. -/
def scanFraction : List Char → Except Break (Option (List Char) × List Char)
  | '.' :: rest =>
    match Binary64.spanDigits rest with
    | ([], rest) => .error (missingDigit rest)
    | (digits, rest) => .ok (some digits, rest)
  | rest => .ok (none, rest)

/-- The digits before the point: a zero stands alone. -/
def scanWhole (cs : List Char) : Except Break (List Char × List Char) :=
  match Binary64.spanDigits cs with
  | ([], rest) => .error (missingDigit rest)
  | ('0' :: _ :: _, _) => .error Fault.malformed.break
  | (digits, rest) => .ok (digits, rest)

/-- A number literal after its sign, and what follows it. -/
def scanNumber (negative : Bool) (cs : List Char) : Except Break (Literal × List Char) := do
  let (whole, rest) ← scanWhole cs
  let (fraction, rest) ← scanFraction rest
  let (exponent, rest) ← scanExponent rest
  return (⟨negative, whole, fraction, exponent⟩, rest)

private theorem length_spanDigits (cs : List Char) :
    (Binary64.spanDigits cs).2.length ≤ cs.length :=
  (List.dropWhile_sublist _).length_le

/-- Where digits are found, less is left than there was. -/
private theorem length_spanDigits_lt {cs digits rest : List Char}
    (h : Binary64.spanDigits cs = (digits, rest)) (hd : digits ≠ []) :
    rest.length < cs.length := by
  have happ := List.takeWhile_append_dropWhile (p := Char.isDigit) (l := cs)
  simp only [Binary64.spanDigits, Prod.mk.injEq] at h
  obtain ⟨rfl, rfl⟩ := h
  have hlen := congrArg List.length happ
  rw [List.length_append] at hlen
  have := List.length_pos_iff.mpr hd
  omega

/-- The digits before a point use up some of the text. -/
private theorem length_scanWhole_lt {cs digits rest : List Char}
    (h : scanWhole cs = .ok (digits, rest)) : rest.length < cs.length := by
  unfold scanWhole at h
  split at h
  · simp at h
  · simp at h
  · rename_i hnil _ hs
    simp only [Except.ok.injEq, Prod.mk.injEq] at h
    obtain ⟨rfl, rfl⟩ := h
    refine length_spanDigits_lt hs ?_
    rintro rfl
    simp_all

private theorem length_scanFraction_le {cs rest : List Char} {f : Option (List Char)}
    (h : scanFraction cs = .ok (f, rest)) : rest.length ≤ cs.length := by
  unfold scanFraction at h
  split at h
  · rename_i r
    have hr := length_spanDigits r
    split at h
    · simp at h
    · rename_i hs
      rw [hs] at hr
      simp only [Except.ok.injEq, Prod.mk.injEq] at h
      obtain ⟨_, rfl⟩ := h
      simp only at hr
      simp only [List.length_cons]
      omega
  · simp only [Except.ok.injEq, Prod.mk.injEq] at h
    obtain ⟨_, rfl⟩ := h
    exact Nat.le_refl _

private theorem length_spanSign (cs : List Char) :
    (Binary64.spanSign cs).2.length ≤ cs.length := by
  unfold Binary64.spanSign
  split <;> simp

private theorem length_scanExponent_le {cs rest : List Char} {e : Option Int}
    (h : scanExponent cs = .ok (e, rest)) : rest.length ≤ cs.length := by
  unfold scanExponent at h
  split at h
  · simp_all
  · rename_i c r
    split at h
    · have hsign := length_spanSign r
      have hdigits := length_spanDigits (Binary64.spanSign r).2
      simp only at h
      split at h
      · simp at h
      · rename_i hs
        rw [hs] at hdigits
        simp only [Except.ok.injEq, Prod.mk.injEq] at h
        obtain ⟨_, rfl⟩ := h
        simp only [List.length_cons]
        simp only at hdigits
        omega
    · simp only [Except.ok.injEq, Prod.mk.injEq] at h
      obtain ⟨_, rfl⟩ := h
      exact Nat.le_refl _

/-- A number literal leaves less than it was given. -/
theorem length_scanNumber_lt {negative : Bool} {cs rest : List Char} {l : Literal}
    (h : scanNumber negative cs = .ok (l, rest)) : rest.length < cs.length := by
  simp only [scanNumber, bind, Except.bind, pure, Except.pure] at h
  split at h
  · simp at h
  rename_i whole hw
  split at h
  · simp at h
  rename_i fraction hf
  split at h
  · simp at h
  rename_i exponent he
  simp only [Except.ok.injEq, Prod.mk.injEq] at h
  obtain ⟨_, rfl⟩ := h
  have h1 : whole.2.length < _ := length_scanWhole_lt hw
  have h2 : fraction.2.length ≤ _ := length_scanFraction_le hf
  have h3 : exponent.2.length ≤ _ := length_scanExponent_le he
  omega

/-- What follows a word, or how the text departs from it. -/
def scanWord : (word cs : List Char) → Except Fault (List Char)
  | [], cs => .ok cs
  | _ :: _, [] => .error .unfinished
  | w :: word, c :: cs => if w = c then scanWord word cs else .error .malformed

/-- A word leaves no more than it was given. -/
theorem length_scanWord_le {word cs rest : List Char} (h : scanWord word cs = .ok rest) :
    rest.length ≤ cs.length := by
  fun_induction scanWord word cs with
  | case1 => simp_all
  | case2 => simp at h
  | case3 w word cs ih => have := ih h; simp; omega
  | case4 => simp at h

/-- The token of a string literal that cannot be skipped. -/
def brokenString (cs : List Char) (skipped : Fault) : Token :=
  match content cs with
  | .ok _ => .broken true skipped.break
  | .error read => .broken true ⟨read, skipped⟩

/-- The tokens of a text. A broken token is the last. -/
def scan : List Char → List Token
  | [] => []
  | '[' :: cs => .openArray :: scan cs
  | ']' :: cs => .closeArray :: scan cs
  | '\x7b' :: cs => .openObject :: scan cs
  | '\x7d' :: cs => .closeObject :: scan cs
  | ',' :: cs => .comma :: scan cs
  | ':' :: cs => .colon :: scan cs
  | 'n' :: cs =>
    match h : scanWord ['u', 'l', 'l'] cs with
    | .ok rest => have := length_scanWord_le h; .null :: scan rest
    | .error f => [.broken false f.break]
  | 't' :: cs =>
    match h : scanWord ['r', 'u', 'e'] cs with
    | .ok rest => have := length_scanWord_le h; .bool true :: scan rest
    | .error f => [.broken false f.break]
  | 'f' :: cs =>
    match h : scanWord ['a', 'l', 's', 'e'] cs with
    | .ok rest => have := length_scanWord_le h; .bool false :: scan rest
    | .error f => [.broken false f.break]
  | '"' :: cs =>
    match h : skipString cs with
    | .ok rest =>
      have := length_skipString_lt h
      .string ((content cs).map String.ofList) :: scan rest
    | .error f => [brokenString cs f]
  | '-' :: cs =>
    match h : scanNumber true cs with
    | .ok (literal, rest) => have := length_scanNumber_lt h; .number literal :: scan rest
    | .error b => [.broken false b]
  | c :: cs =>
    if isBlank c then scan cs
    else if c.isDigit then
      match h : scanNumber false (c :: cs) with
      | .ok (literal, rest) => have := length_scanNumber_lt h; .number literal :: scan rest
      | .error b => [.broken false b]
    else [.broken false Fault.malformed.break]
termination_by cs => cs.length
decreasing_by all_goals simp_all <;> omega

end Token

end Isochrone.Json
