import Isochrone.Json.Token
import Isochrone.Json.Value

/-!
# Literals read back

A written string literal is one token with the string it was written for, whatever follows. So is
a written integer, as long as what follows could not continue a number.
-/

namespace Isochrone.Json

namespace Token

/-- A number below 32 is written with two hexadecimal digits that read back. -/
theorem hexUnit?_hexByte (n : Fin 32) :
    hexUnit? '0' '0' (Nat.digitChar (n / 16)) (Nat.digitChar (n % 16)) = some n.val := by
  revert n
  decide

/-- A character that is no quote, backslash or control character stands for itself. -/
theorem content_cons {c : Char} (hquote : c ≠ '"') (hbackslash : c ≠ '\\')
    (hblank : ¬ c.toNat < 0x20) (rest : List Char) :
    content (c :: rest) = (c :: ·) <$> content rest := by
  rw [content, if_neg hblank]
  · exact hquote
  -- the other earlier patterns begin with a backslash
  all_goals
    intros
    contradiction

/-- A character that needs no escape is skipped by itself. -/
theorem skipString_cons {c : Char} (hquote : c ≠ '"') (hbackslash : c ≠ '\\')
    (hblank : ¬ c.toNat < 0x20) (rest : List Char) :
    skipString (c :: rest) = skipString rest := by
  rw [skipString, if_neg hblank]
  · exact hquote
  -- the other earlier patterns begin with a backslash
  all_goals
    intros
    contradiction

/-- An escaped character reads back as the character, and is passed over. -/
theorem content_escapeChar (c : Char) (rest : List Char) :
    content (Value.escapeChar c ++ rest) = (c :: ·) <$> content rest ∧
      skipString (Value.escapeChar c ++ rest) = skipString rest := by
  unfold Value.escapeChar
  split
  case h_8 hquote hbackslash _ _ _ _ _ =>
    split
    · rename_i hcontrol
      have hunit := hexUnit?_hexByte ⟨c.toNat, hcontrol⟩
      have hlow : isLowSurrogate c.toNat = false := by
        simp only [isLowSurrogate, Bool.and_eq_false_iff, decide_eq_false_iff_not]
        omega
      have hhigh : isHighSurrogate c.toNat = false := by
        simp only [isHighSurrogate, Bool.and_eq_false_iff, decide_eq_false_iff_not]
        omega
      simp only [List.cons_append, List.nil_append, Value.hexByte]
      simp only at hunit
      constructor
      · rw [content, hunit]
        simp only [hlow, hhigh, Bool.false_eq_true, if_false, Char.ofNat_toNat]
      · rw [skipString, hunit]
        rfl
    · rename_i hcontrol
      exact ⟨content_cons hquote hbackslash hcontrol rest,
        skipString_cons hquote hbackslash hcontrol rest⟩
  all_goals exact ⟨rfl, rfl⟩

/-- The characters of a written string read back. -/
theorem content_flatMap_escapeChar (cs rest : List Char) :
    content (cs.flatMap Value.escapeChar ++ '"' :: rest) = .ok cs ∧
      skipString (cs.flatMap Value.escapeChar ++ '"' :: rest) = .ok rest := by
  induction cs with
  | nil => exact ⟨rfl, rfl⟩
  | cons c cs ih =>
    obtain ⟨hcontent, hskip⟩ := content_escapeChar c (cs.flatMap Value.escapeChar ++ '"' :: rest)
    rw [List.flatMap_cons, List.append_assoc, hcontent, hskip, ih.1, ih.2]
    exact ⟨rfl, rfl⟩

/-- A written string is one token. -/
theorem scan_stringChars (s : String) (rest : List Char) :
    scan (Value.stringChars s ++ rest) = .string (.ok s) :: scan rest := by
  obtain ⟨hcontent, hskip⟩ := content_flatMap_escapeChar s.toList rest
  have hchars : Value.stringChars s ++ rest =
      '"' :: (s.toList.flatMap Value.escapeChar ++ '"' :: rest) := by
    simp only [Value.stringChars, List.cons_append, List.append_assoc, List.nil_append]
  rw [hchars, scan]
  split
  · rename_i hok
    rw [hskip] at hok
    obtain rfl := Except.ok.inj hok
    rw [hcontent]
    exact congrArg (fun t => Token.string (.ok t) :: scan rest) (String.ofList_toList)
  · rename_i herror
    rw [hskip] at herror
    cases herror

/-- Whether what follows a number does not continue it. -/
def EndsNumber (rest : List Char) : Prop :=
  ∀ c ∈ rest.head?, c.isDigit = false ∧ c ≠ '.' ∧ c ≠ 'e' ∧ c ≠ 'E'

/-- The digits of a number are taken up to the end of the number. -/
theorem spanDigits_toDigits (n : Nat) {rest : List Char} (h : EndsNumber rest) :
    Binary64.spanDigits (Nat.toDigits 10 n ++ rest) = (Nat.toDigits 10 n, rest) := by
  have hdigits : ∀ c ∈ Nat.toDigits 10 n, c.isDigit = true := fun c hc =>
    Nat.isDigit_of_mem_toDigits (by decide) (by decide) hc
  have hrest : rest.takeWhile Char.isDigit = [] ∧ rest.dropWhile Char.isDigit = rest := by
    cases rest with
    | nil => exact ⟨rfl, rfl⟩
    | cons c rest =>
      have hc : c.isDigit = false := (h c rfl).1
      simp [hc]
  rw [Binary64.spanDigits, List.takeWhile_append_of_pos hdigits,
    List.dropWhile_append_of_pos hdigits, hrest.1, hrest.2, List.append_nil]

/-- No number is written with a zero in front of other digits. -/
theorem toDigits_ne_zero_cons (n : Nat) (d : Char) (ds : List Char) :
    Nat.toDigits 10 n ≠ '0' :: d :: ds := by
  induction n using Nat.strongRecOn generalizing d ds with
  | ind n ih =>
    rw [Nat.toDigits_eq_if (by decide)]
    split
    · simp
    · rename_i hten
      intro hzero
      cases hfront : Nat.toDigits 10 (n / 10) with
      | nil => exact Nat.toDigits_ne_nil hfront
      | cons c cs =>
        rw [hfront, List.cons_append] at hzero
        obtain ⟨rfl, hcs⟩ := List.cons.inj hzero
        cases cs with
        | nil =>
          have hvalue : Nat.ofDigitChars 10 (Nat.toDigits 10 (n / 10)) 0 = n / 10 :=
            Nat.ofDigitChars_ten_toDigits
          have hnone : Nat.ofDigitChars 10 ['0'] 0 = 0 := by decide
          rw [hfront, hnone] at hvalue
          omega
        | cons e es => exact ih (n / 10) (by omega) e es hfront

/-- A written number is scanned as its digits, without fraction and exponent. -/
theorem scanNumber_toDigits (negative : Bool) (n : Nat) {rest : List Char}
    (h : EndsNumber rest) :
    scanNumber negative (Nat.toDigits 10 n ++ rest) =
      .ok (⟨negative, Nat.toDigits 10 n, none, none⟩, rest) := by
  have hwhole : scanWhole (Nat.toDigits 10 n ++ rest) = .ok (Nat.toDigits 10 n, rest) := by
    rw [scanWhole, spanDigits_toDigits n h]
    split
    · rename_i hnil
      exact absurd (Prod.mk.inj hnil).1 Nat.toDigits_ne_nil
    · rename_i hzero
      exact absurd (Prod.mk.inj hzero).1 (toDigits_ne_zero_cons n _ _)
    · rename_i heq
      rw [heq]
  have hfraction : scanFraction rest = .ok (none, rest) := by
    unfold scanFraction
    split
    · exact absurd rfl (h '.' rfl).2.1
    · rfl
  have hexponent : scanExponent rest = .ok (none, rest) := by
    unfold scanExponent
    split
    · rfl
    · rename_i c rest
      obtain ⟨-, -, hlower, hupper⟩ := h c rfl
      rw [if_neg (not_or.mpr ⟨hlower, hupper⟩)]
  simp only [scanNumber, hwhole, hfraction, hexponent, bind, Except.bind, pure, Except.pure]

/-- A digit begins a number. -/
theorem scan_of_isDigit {d : Char} (hd : d.isDigit = true) {cs rest : List Char}
    {literal : Literal} (h : scanNumber false (d :: cs) = .ok (literal, rest)) :
    scan (d :: cs) = .number literal :: scan rest := by
  have hmark : ∀ {mark : Char} {cs' : List Char}, mark.isDigit = false →
      d :: cs ≠ mark :: cs' := by
    intro mark cs' hnone heq
    rw [(List.cons.inj heq).1, hnone] at hd
    cases hd
  have hblank : isBlank d = false := by
    have hne : ∀ {mark : Char}, mark.isDigit = false → d ≠ mark := by
      rintro mark hnone rfl
      rw [hnone] at hd
      cases hd
    have h1 : d ≠ ' ' := hne rfl
    have h2 : d ≠ '\n' := hne rfl
    have h3 : d ≠ '\t' := hne rfl
    have h4 : d ≠ '\r' := hne rfl
    simp [isBlank, h1, h2, h3, h4]
  rw [scan.eq_def]
  split
  case h_1 heq => cases heq
  case h_13 c cs' _ _ _ _ _ _ _ _ _ _ _ heq =>
    obtain ⟨rfl, rfl⟩ := List.cons.inj heq
    rw [hblank, hd]
    simp only [Bool.false_eq_true, if_false, if_true]
    split
    · rename_i hok
      rw [h] at hok
      obtain ⟨rfl, rfl⟩ := Prod.mk.inj (Except.ok.inj hok)
      rfl
    · rename_i herror
      rw [h] at herror
      cases herror
  all_goals exact absurd (by assumption) (hmark rfl)

/-- A written natural number is one token. -/
theorem scan_toDigits (n : Nat) {rest : List Char} (h : EndsNumber rest) :
    scan (Nat.toDigits 10 n ++ rest) =
      .number ⟨false, Nat.toDigits 10 n, none, none⟩ :: scan rest := by
  have hnumber := scanNumber_toDigits false n h
  cases hdigits : Nat.toDigits 10 n with
  | nil => exact absurd hdigits Nat.toDigits_ne_nil
  | cons d ds =>
    rw [hdigits] at hnumber
    refine scan_of_isDigit ?_ hnumber
    exact Nat.isDigit_of_mem_toDigits (by decide) (by decide) (hdigits ▸ List.mem_cons_self)

/-- A minus sign and digits are one literal. -/
theorem scan_minus (n : Nat) {rest : List Char} (h : EndsNumber rest) :
    scan ('-' :: (Nat.toDigits 10 n ++ rest)) =
      .number ⟨true, Nat.toDigits 10 n, none, none⟩ :: scan rest := by
  rw [scan]
  split
  · rename_i hok
    rw [scanNumber_toDigits true n h] at hok
    obtain ⟨rfl, rfl⟩ := Prod.mk.inj (Except.ok.inj hok)
    rfl
  · rename_i herror
    rw [scanNumber_toDigits true n h] at herror
    cases herror

end Token

/-- The digits of an integer that fits denote it. -/
theorem Literal.number?_toDigits {n : Int} (fits : Fits64 n) :
    number? ⟨decide (n < 0), Nat.toDigits 10 n.natAbs, none, none⟩ = some (.integer n fits) := by
  have hvalue : Binary64.digitsValue (Nat.toDigits 10 n.natAbs) = n.natAbs :=
    Nat.ofDigitChars_ten_toDigits
  have hinteger : integer? ⟨decide (n < 0), Nat.toDigits 10 n.natAbs, none, none⟩ = some n := by
    simp only [integer?, hvalue, decide_eq_true_eq]
    split
    · rw [if_neg (by omega)]
      exact congrArg some (by omega)
    · exact congrArg some (by omega)
  rw [number?, hinteger]
  exact dif_pos fits

/-- A written integer is one token, the literal that denotes it. -/
theorem Token.scan_integer {n : Int} (fits : Fits64 n) {rest : List Char} (h : EndsNumber rest) :
    ∃ literal : Literal, literal.number? = some (.integer n fits) ∧
      scan ((Number.integer n fits).chars ++ rest) = .number literal :: scan rest := by
  refine ⟨_, Literal.number?_toDigits fits, ?_⟩
  rw [Number.chars]
  by_cases hn : n < 0
  · rw [if_pos hn, decide_eq_true hn]
    exact scan_minus n.natAbs h
  · rw [if_neg hn, decide_eq_false hn]
    exact scan_toDigits n.natAbs h

end Isochrone.Json
