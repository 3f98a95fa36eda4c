import Isochrone.Feature
import Isochrone.Proofs.Number.Exact
import Isochrone.Proofs.Text.Blank

/-!
# Values that stand for seconds

A JSON value stands for a natural number as an integer, as a binary64 number with exactly that
value, or as a text that spells it. A travel time is read from just these values, and only if the
number fits 32 bits: nothing is rounded, cut off or wrapped.
-/

namespace Isochrone

open Json (Value)

/-- A text that spells a natural number: decimal digits, at most one plus sign in front of them,
and blanks around. -/
structure Spelling where
  before : List Char
  /-- Whether the plus sign is there. -/
  signed : Bool
  digits : List Char
  after : List Char
  blank_before : ∀ c ∈ before, Text.isBlank c = true
  digits_ne_nil : digits ≠ []
  decimal : ∀ c ∈ digits, c.isDigit = true
  blank_after : ∀ c ∈ after, Text.isBlank c = true

namespace Spelling

/-- The sign and the digits. -/
def core (s : Spelling) : List Char := if s.signed then '+' :: s.digits else s.digits

/-- The whole text. -/
def chars (s : Spelling) : List Char := s.before ++ s.core ++ s.after

/-- The number that is spelt. -/
def number (s : Spelling) : ℕ := Nat.ofDigitChars 10 s.digits 0

theorem isBlank_of_isDigit {c : Char} (h : c.isDigit = true) : Text.isBlank c = false := by
  have hdigit : 0x30 ≤ c.toNat ∧ c.toNat ≤ 0x39 := Char.isDigit_iff_toNat.mp h
  simp only [Text.isBlank, Text.blankPoints, List.contains_eq_mem, List.mem_cons, List.not_mem_nil,
    or_false, decide_eq_false_iff_not]
  omega

/-- What stands between the blanks of a spelling. -/
theorem trim_chars (s : Spelling) : Text.trim s.chars = s.core := by
  have hdigits : ∀ c ∈ s.digits, Text.isBlank c = false :=
    fun c hc => isBlank_of_isDigit (s.decimal c hc)
  refine Text.trim_append s.blank_before s.blank_after ?_ ?_
  · rw [core]
    split
    · exact List.cons_ne_nil _ _
    · exact s.digits_ne_nil
  · rw [core]
    split
    · exact List.forall_mem_cons.mpr ⟨by decide, hdigits⟩
    · exact hdigits

end Spelling

theorem ofNat_eq_iff {m : ℕ} {n : UInt32} (h : m < 0x100000000) :
    UInt32.ofNat m = n ↔ m = n.toNat := by
  rw [← UInt32.toNat_inj, UInt32.toNat_ofNat_of_lt' h]

/-- A natural number is a number of seconds just if it fits 32 bits. -/
theorem seconds?_eq_some_iff {m : ℕ} {n : UInt32} : seconds? m = some n ↔ m = n.toNat := by
  have hn := n.toNat_lt
  rw [seconds?]
  split
  · rename_i hfits
    rw [Option.some.injEq, ofNat_eq_iff hfits]
  · rename_i hlarge
    simp only [reduceCtorEq, false_iff]
    omega

/-- What a text is read as behind its sign. -/
def digitsSeconds? (digits : List Char) : Option UInt32 :=
  if digits.isEmpty || !digits.all Char.isDigit then none
  else seconds? (Binary64.digitsValue digits)

theorem parseSeconds?_plus (rest : List Char) :
    parseSeconds? ('+' :: rest) = digitsSeconds? rest := rfl

theorem parseSeconds?_of_unsigned {cs : List Char} (h : ∀ rest, cs ≠ '+' :: rest) :
    parseSeconds? cs = digitsSeconds? cs := by
  rw [parseSeconds?]
  · rfl
  · exact h

theorem digitsSeconds?_eq_some_iff {digits : List Char} {n : UInt32} :
    digitsSeconds? digits = some n ↔
      digits ≠ [] ∧ (∀ c ∈ digits, c.isDigit = true) ∧
        Nat.ofDigitChars 10 digits 0 = n.toNat := by
  rw [digitsSeconds?, Binary64.digitsValue, ← and_assoc]
  by_cases hshape : digits ≠ [] ∧ ∀ c ∈ digits, c.isDigit = true
  · have hread : (digits.isEmpty || !digits.all Char.isDigit) = false := by simpa using hshape
    rw [hread, if_neg Bool.false_ne_true, and_iff_right hshape, seconds?_eq_some_iff]
  · have hread : (digits.isEmpty || !digits.all Char.isDigit) = true := by
      by_cases hnil : digits = []
      · simp [hnil]
      · simpa [hnil] using hshape
    rw [hread, if_pos rfl]
    simp [hshape]

/-- A text without blanks around it is read just if it spells a number that fits 32 bits. -/
theorem parseSeconds?_eq_some_iff {cs : List Char} {n : UInt32} :
    parseSeconds? cs = some n ↔ ∃ (signed : Bool) (digits : List Char),
      cs = (if signed then '+' :: digits else digits) ∧ digits ≠ [] ∧
        (∀ c ∈ digits, c.isDigit = true) ∧ Nat.ofDigitChars 10 digits 0 = n.toNat := by
  by_cases hplus : ∃ rest, cs = '+' :: rest
  · obtain ⟨rest, rfl⟩ := hplus
    rw [parseSeconds?_plus, digitsSeconds?_eq_some_iff]
    constructor
    · intro h
      exact ⟨true, rest, rfl, h⟩
    · rintro ⟨signed, digits, hcs, hne, hdecimal, hnumber⟩
      cases signed with
      | true =>
        obtain rfl := (List.cons.inj hcs).2
        exact ⟨hne, hdecimal, hnumber⟩
      | false =>
        -- a plus sign is no digit
        obtain rfl : '+' :: rest = digits := hcs
        cases hdecimal '+' List.mem_cons_self
  · have hunsigned : ∀ rest, cs ≠ '+' :: rest := fun rest hcs => hplus ⟨rest, hcs⟩
    rw [parseSeconds?_of_unsigned hunsigned, digitsSeconds?_eq_some_iff]
    constructor
    · intro h
      exact ⟨false, cs, rfl, h⟩
    · rintro ⟨signed, digits, hcs, h⟩
      cases signed with
      | true => exact absurd hcs (hunsigned digits)
      | false =>
        obtain rfl : cs = digits := hcs
        exact h

/-- The values that stand for a natural number. -/
inductive StandsFor : Value → ℕ → Prop
  | integer {n : ℕ} (fits : Json.Fits64 n) : StandsFor (.number (.integer n fits)) n
  | real {x : Binary64.Finite} {n : ℕ} (h : x.value = n) : StandsFor (.number (.real x)) n
  | text (s : Spelling) : StandsFor (.string (String.ofList s.chars)) s.number

namespace StandsFor

variable {n : ℕ}

theorem integer_iff {m : ℤ} {fits : Json.Fits64 m} :
    StandsFor (.number (.integer m fits)) n ↔ m = n := by
  constructor
  · rintro ⟨⟩
    rfl
  · rintro rfl
    exact .integer fits

theorem real_iff {x : Binary64.Finite} : StandsFor (.number (.real x)) n ↔ x.value = n := by
  constructor
  · intro h
    cases h with
    | real h => exact h
  · exact .real

theorem text_iff {text : String} :
    StandsFor (.string text) n ↔
      ∃ s : Spelling, text = String.ofList s.chars ∧ s.number = n := by
  constructor
  · rintro ⟨⟩
    exact ⟨_, rfl, rfl⟩
  · rintro ⟨s, rfl, rfl⟩
    exact .text s

end StandsFor

/-- A text is read just if it spells a number that fits 32 bits, whatever blanks are around. -/
theorem wholeSeconds?_string {text : String} {n : UInt32} :
    wholeSeconds? (.string text) = some n ↔
      ∃ s : Spelling, text = String.ofList s.chars ∧ s.number = n.toNat := by
  rw [wholeSeconds?, parseSeconds?_eq_some_iff]
  constructor
  · rintro ⟨signed, digits, htrim, hne, hdecimal, hnumber⟩
    obtain ⟨before, after, hcs, hbefore, hafter⟩ := Text.exists_blanks_trim text.toList
    refine ⟨⟨before, signed, digits, after, hbefore, hne, hdecimal, hafter⟩, ?_, hnumber⟩
    rw [← String.ofList_toList (s := text), hcs, htrim]
    rfl
  · rintro ⟨s, rfl, hnumber⟩
    refine ⟨s.signed, s.digits, ?_, s.digits_ne_nil, s.decimal, hnumber⟩
    rw [String.toList_ofList, s.trim_chars]
    rfl

/-- A float is taken just if its exact value is a number that fits 32 bits. -/
theorem floatSeconds?_finite {x : Binary64.Finite} {n : UInt32} :
    floatSeconds? (.finite x) = some n ↔ x.value = n.toNat := by
  have htests : floatSeconds? (.finite x) = some n ↔
      (x.isWhole && x.isUpTo 0xffffffff) = true ∧ x.toUInt32 = n := by
    simp [floatSeconds?, Binary64.finite?, Option.filter_eq_some_iff]
  rw [htests, Binary64.Finite.isWhole_isUpTo_iff]
  constructor
  · rintro ⟨⟨m, hle, hvalue⟩, hn⟩
    have hround : (UInt32.ofNat m).toNat = m :=
      UInt32.toNat_ofNat_of_lt' (Nat.lt_succ_of_le hle)
    rw [← hround] at hvalue
    rw [← hn, Binary64.Finite.toUInt32_of_value hvalue, hvalue]
  · intro hvalue
    have hn := n.toNat_lt
    exact ⟨⟨n.toNat, by omega, hvalue⟩, Binary64.Finite.toUInt32_of_value hvalue⟩

/-- A negative integer is taken as a float, but none that is in the range. -/
theorem floatSeconds?_ofInt_neg {m : ℤ} (h : m < 0) : floatSeconds? (.ofInt m) = none := by
  cases hx : Binary64.ofInt m with
  | finite x =>
    have hrange := Binary64.not_isUpTo_of_ofInt h hx 0xffffffff
    simp [floatSeconds?, Binary64.finite?, Option.filter_some, hrange]
  | infinite negative => rfl
  | nan => rfl

/-- An integer is read just if it is a number that fits 32 bits. -/
theorem wholeSeconds?_integer {m : ℤ} {fits : Json.Fits64 m} {n : UInt32} :
    wholeSeconds? (.number (.integer m fits)) = some n ↔ m = n.toNat := by
  by_cases hm : 0 ≤ m
  · have hwhole : wholeSeconds? (.number (.integer m fits)) = seconds? m.toNat := by
      simp only [wholeSeconds?, Json.Number.natural?, if_pos hm]
    rw [hwhole, seconds?_eq_some_iff]
    omega
  · have hnone : wholeSeconds? (.number (.integer m fits)) = none := by
      simp only [wholeSeconds?, Json.Number.natural?, if_neg hm, Json.Number.toBinary64]
      exact floatSeconds?_ofInt_neg (Int.not_le.mp hm)
    rw [hnone]
    simp only [reduceCtorEq, false_iff]
    omega

/-- A real is read just if its exact value is a number that fits 32 bits. -/
theorem wholeSeconds?_real {x : Binary64.Finite} {n : UInt32} :
    wholeSeconds? (.number (.real x)) = some n ↔ x.value = n.toNat := floatSeconds?_finite

/-- A time is read just from the values that stand for it. -/
theorem wholeSeconds?_eq_some_iff {v : Value} {n : UInt32} :
    wholeSeconds? v = some n ↔ StandsFor v n.toNat := by
  cases v with
  | number number =>
    cases number with
    | integer m fits => rw [StandsFor.integer_iff, wholeSeconds?_integer]
    | real x => rw [StandsFor.real_iff, wholeSeconds?_real]
  | string text => rw [StandsFor.text_iff, wholeSeconds?_string]
  | _ => constructor <;> (intro h; cases h)

/-- A time is not read from a value just if no number that it stands for fits 32 bits. -/
theorem wholeSeconds?_eq_none_iff {v : Value} :
    wholeSeconds? v = none ↔ ∀ m, StandsFor v m → 0x100000000 ≤ m := by
  rw [Option.eq_none_iff_forall_ne_some]
  constructor
  · intro h m hm
    by_contra hfits
    have hround : (UInt32.ofNat m).toNat = m := UInt32.toNat_ofNat_of_lt' (Nat.not_le.mp hfits)
    refine h (UInt32.ofNat m) (wholeSeconds?_eq_some_iff.mpr ?_)
    rwa [hround]
  · intro h n hn
    have hlarge := h n.toNat (wholeSeconds?_eq_some_iff.mp hn)
    have hfits := n.toNat_lt
    omega

/-- The decimal digits of a number spell it, with any blanks around. -/
def Spelling.ofNat (n : ℕ) (before after : List Char)
    (h : ∀ c ∈ before ++ after, Text.isBlank c = true) : Spelling where
  before := before
  signed := false
  digits := Nat.toDigits 10 n
  after := after
  blank_before c hc := h c (List.mem_append_left after hc)
  digits_ne_nil := Nat.toDigits_ne_nil
  decimal _ hc := Nat.isDigit_of_mem_toDigits (by decide) (by decide) hc
  blank_after c hc := h c (List.mem_append_right before hc)

/-- A value is read as a time just if it stands for it, and not at all just if it stands for no
number of 32 bits: it is never rounded, wrapped or cut off. Every number of 32 bits is read as an
integer, as a binary64 number, and as its decimal digits with blanks around. -/
theorem reads_exact_seconds (v : Value) (n : UInt32) :
    (wholeSeconds? v = some n ↔ StandsFor v n.toNat) ∧
    (wholeSeconds? v = none ↔ ∀ m, StandsFor v m → 0x100000000 ≤ m) ∧
    wholeSeconds? (.ofUInt32 n) = some n ∧
    wholeSeconds? (.ofBinary64 (.ofInt n.toNat)) = some n ∧
    ∀ before after : String, (∀ c ∈ before.toList ++ after.toList, Text.isBlank c = true) →
      wholeSeconds? (.string (before ++ n.toNat.repr ++ after)) = some n := by
  refine ⟨wholeSeconds?_eq_some_iff, wholeSeconds?_eq_none_iff, ?_, ?_, ?_⟩
  · exact wholeSeconds?_eq_some_iff.mpr (.integer _)
  · have hsmall : n.toNat < 2 ^ 53 := n.toNat_lt.trans (by decide)
    obtain ⟨x, hx, hvalue⟩ := Binary64.ofInt_exact hsmall
    rw [hx]
    exact wholeSeconds?_eq_some_iff.mpr (.real hvalue)
  · intro before after hblank
    refine wholeSeconds?_string.mpr ⟨.ofNat n.toNat before.toList after.toList hblank, ?_,
      Nat.ofDigitChars_ten_toDigits⟩
    rw [← String.ofList_toList (s := before ++ n.toNat.repr ++ after), String.toList_append,
      String.toList_append, Nat.toList_repr]
    rfl

example : wholeSeconds? (.number (.real (.zero true))) = some 0 := by decide +kernel

example : wholeSeconds? (.string "\t+0600 ") = some 600 := by decide

example : ∀ s ∈ ["-0", "600.0", "", "+", "6 00", "4294967296"], wholeSeconds? (.string s) = none := by
  decide

end Isochrone
