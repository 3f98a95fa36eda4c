import Isochrone.Text.Percent

/-!
# Percent-encoding read back

A byte in percent-encoding reads back as that byte, whatever follows, and so does a character
as the bytes of its UTF-8 form. A character other than the percent sign stands for its own
bytes. The encoded form is written with percent signs and upper-case digits alone.

Decoding never makes a text longer. It keeps the length of just those texts in which no percent
sign has two digits behind it, and such a text stands for itself.
-/

namespace Isochrone.Text

/-- An encoded byte reads back. -/
theorem percentDecode_percentByte (b : UInt8) (rest : List Char) :
    percentDecode (percentByte b ++ rest) = b :: percentDecode rest := by
  have hb : b.toNat < 256 := b.toNat_lt
  have hhigh : hexValue? (upperHex (b.toNat / 16)) = some (b.toNat / 16) :=
    hexValue?_upperHex (by omega)
  have hlow : hexValue? (upperHex (b.toNat % 16)) = some (b.toNat % 16) :=
    hexValue?_upperHex (by omega)
  have hvalue : 16 * (b.toNat / 16) + b.toNat % 16 = b.toNat := by omega
  simp only [percentByte, List.cons_append, List.nil_append, percentDecode, hhigh, hlow, hvalue,
    UInt8.ofNat_toNat]

/-- Encoded bytes read back one after another. -/
theorem percentDecode_flatMap_percentByte (bytes : List UInt8) (rest : List Char) :
    percentDecode (bytes.flatMap percentByte ++ rest) = bytes ++ percentDecode rest := by
  induction bytes with
  | nil => rfl
  | cons b bytes ih =>
    rw [List.flatMap_cons, List.append_assoc, percentDecode_percentByte, ih, List.cons_append]

/-- An encoded character reads back as the bytes of its UTF-8 form. -/
theorem percentDecode_percentChar (c : Char) (rest : List Char) :
    percentDecode (percentChar c ++ rest) = String.utf8EncodeChar c ++ percentDecode rest :=
  percentDecode_flatMap_percentByte _ rest

/-- Any character but the percent sign stands for itself. -/
theorem percentDecode_cons_of_ne {c : Char} (h : c ≠ '%') (rest : List Char) :
    percentDecode (c :: rest) = String.utf8EncodeChar c ++ percentDecode rest := by
  cases rest with
  | nil => rw [percentDecode]; simp [h]
  | cons a rest =>
    cases rest with
    | nil => rw [percentDecode]; simp [h]
    | cons b rest => rw [percentDecode]; simp [h]

/-- The encoded form of a character holds percent signs and upper-case digits alone. -/
theorem mem_percentChar {c x : Char} (h : x ∈ percentChar c) :
    x = '%' ∨ ∃ digit : Fin 16, x = upperHex digit := by
  obtain ⟨b, -, hx⟩ := List.mem_flatMap.mp h
  have hb : b.toNat < 256 := b.toNat_lt
  simp only [percentByte, List.mem_cons, List.not_mem_nil, or_false] at hx
  rcases hx with rfl | rfl | rfl
  · exact Or.inl rfl
  · exact Or.inr ⟨⟨b.toNat / 16, by omega⟩, rfl⟩
  · exact Or.inr ⟨⟨b.toNat % 16, by omega⟩, rfl⟩

/-- The bytes of the UTF-8 form of a text. -/
def utf8 (cs : List Char) : List UInt8 := cs.flatMap String.utf8EncodeChar

theorem utf8_cons (c : Char) (cs : List Char) :
    utf8 (c :: cs) = String.utf8EncodeChar c ++ utf8 cs := rfl

theorem utf8EncodeChar_percent : String.utf8EncodeChar '%' = [0x25] := by decide

/-- Every character has a byte. -/
theorem length_utf8_lt_cons (c : Char) (cs : List Char) :
    (utf8 cs).length < (utf8 (c :: cs)).length := by
  have hc := c.utf8Size_pos
  rw [utf8_cons, List.length_append, String.length_utf8EncodeChar]
  omega

/-- Whether a text holds an encoded byte: a percent sign with two digits behind it. -/
def hasEscape : List Char → Bool
  | '%' :: a :: b :: rest =>
    ((hexValue? a).isSome && (hexValue? b).isSome) || hasEscape (a :: b :: rest)
  | _ :: rest => hasEscape rest
  | [] => false

/-- A text without encoded bytes stands for itself. -/
theorem percentDecode_of_not_hasEscape {cs : List Char} (h : hasEscape cs = false) :
    percentDecode cs = utf8 cs := by
  fun_induction percentDecode cs with
  | case1 a b rest high low hlow hhigh ih => simp [hasEscape, hlow, hhigh] at h
  | case2 a b rest hdigits ih =>
    rw [hasEscape, Bool.or_eq_false_iff] at h
    rw [ih h.2, utf8_cons '%', utf8EncodeChar_percent, List.singleton_append]
  | case3 c rest hc ih =>
    rw [hasEscape] at h
    · rw [ih h, utf8_cons]
    · exact hc
  | case4 => rfl

/-- Decoding leaves every text as long as it is, or makes it shorter. -/
theorem length_percentDecode_le (cs : List Char) :
    (percentDecode cs).length ≤ (utf8 cs).length := by
  fun_induction percentDecode cs with
  | case1 a b rest high low hlow hhigh ih =>
    have ha := length_utf8_lt_cons a (b :: rest)
    have hb := length_utf8_lt_cons b rest
    have hpercent := length_utf8_lt_cons '%' (a :: b :: rest)
    rw [List.length_cons]
    omega
  | case2 a b rest hdigits ih =>
    have hpercent := length_utf8_lt_cons '%' (a :: b :: rest)
    rw [List.length_cons]
    omega
  | case3 c rest hc ih =>
    rw [utf8_cons, List.length_append, List.length_append]
    omega
  | case4 => exact Nat.le_refl 0

/-- An encoded byte makes the decoded form shorter. -/
theorem length_percentDecode_lt {cs : List Char} (h : hasEscape cs = true) :
    (percentDecode cs).length < (utf8 cs).length := by
  fun_induction percentDecode cs with
  | case1 a b rest high low hlow hhigh ih =>
    have hrest := length_percentDecode_le rest
    have hb := length_utf8_lt_cons b rest
    have ha := length_utf8_lt_cons a (b :: rest)
    have hpercent := length_utf8_lt_cons '%' (a :: b :: rest)
    rw [List.length_cons]
    omega
  | case2 a b rest hdigits ih =>
    have hnone : ((hexValue? a).isSome && (hexValue? b).isSome) = false := by
      cases ha : hexValue? a with
      | none => rfl
      | some high =>
        cases hb : hexValue? b with
        | none => rfl
        | some low => exact absurd hb (hdigits high low ha)
    rw [hasEscape, hnone, Bool.false_or] at h
    have hrest := ih h
    have hpercent := length_utf8_lt_cons '%' (a :: b :: rest)
    rw [List.length_cons]
    omega
  | case3 c rest hc ih =>
    rw [hasEscape] at h
    · have hrest := ih h
      rw [utf8_cons, List.length_append, List.length_append]
      omega
    · exact hc
  | case4 => cases h

/-- Decoding keeps the length of just the texts without encoded bytes. -/
theorem length_percentDecode_eq_iff (cs : List Char) :
    (percentDecode cs).length = (utf8 cs).length ↔ hasEscape cs = false := by
  cases hescape : hasEscape cs with
  | true => simp [Nat.ne_of_lt (length_percentDecode_lt hescape)]
  | false => simp [percentDecode_of_not_hasEscape hescape]

end Isochrone.Text
