import Isochrone.Proofs.Text.Percent

/-!
# The order of texts is the order of their bytes

Texts are ordered by their code points. The UTF-8 forms of two different characters first differ
at a byte of both, and the smaller character has the smaller byte there, so the UTF-8 forms of
texts stand in the same order as the texts.
-/

namespace Isochrone.Text

/-- Lists of bytes that are given as numbers are compared like lists of numbers. -/
theorem cons_ofNat_lt_cons_ofNat {m n : Nat} (hm : m < 256) (hn : n < 256)
    (ms ns : List UInt8) :
    UInt8.ofNat m :: ms < UInt8.ofNat n :: ns ↔ m < n ∨ m = n ∧ ms < ns := by
  rw [List.cons_lt_cons_iff, UInt8.lt_iff_toNat_lt, ← UInt8.toNat_inj,
    UInt8.toNat_ofNat_of_lt' hm, UInt8.toNat_ofNat_of_lt' hn]

/-- Numbers of 21 bits are compared by their first groups of 3, 6, 6 and 6 bits that differ. -/
theorem lt_groups {m n : Nat} (h : m < n) (hn : n < 0x200000) :
    m / 262144 % 8 < n / 262144 % 8 ∨ m / 262144 % 8 = n / 262144 % 8 ∧
      (m / 4096 % 64 < n / 4096 % 64 ∨ m / 4096 % 64 = n / 4096 % 64 ∧
        (m / 64 % 64 < n / 64 % 64 ∨ m / 64 % 64 = n / 64 % 64 ∧ m % 64 < n % 64)) := by
  have hgroups : ∀ k < 0x200000,
      k = 262144 * (k / 262144 % 8) + 4096 * (k / 4096 % 64) + 64 * (k / 64 % 64) + k % 64 := by
    intro k hk
    omega
  have hm := hgroups m (by omega)
  have hn := hgroups n hn
  omega

/-- The UTF-8 forms of two characters decide the order of whatever begins with them. -/
theorem utf8EncodeChar_append_lt {c d : Char} (h : c < d) (ms ns : List UInt8) :
    String.utf8EncodeChar c ++ ms < String.utf8EncodeChar d ++ ns := by
  have hcd : c.val.toNat < d.val.toNat := h
  have hd : d.val.toNat < 0x110000 := by
    have hvalid := d.valid
    simp only [UInt32.isValidChar, Nat.isValidChar] at hvalid
    omega
  have hgroups := lt_groups hcd (by omega)
  unfold String.utf8EncodeChar
  generalize c.val.toNat = m at *
  generalize d.val.toNat = n at *
  simp only
  -- one case for each pair of lengths; the form of the smaller character is not the longer one
  split <;> split <;> (repeat' split) <;>
    simp (disch := omega) only [List.cons_append, List.nil_append, cons_ofNat_lt_cons_ofNat] <;>
    omega

/-- The UTF-8 forms of texts stand in the order of the texts. -/
theorem utf8_lt {cs ds : List Char} (h : cs < ds) : utf8 cs < utf8 ds := by
  induction h with
  | nil =>
    rename_i d ds
    obtain ⟨n, ns, hn⟩ : ∃ n ns, utf8 (d :: ds) = n :: ns := by
      refine List.exists_cons_of_ne_nil (List.ne_nil_of_length_pos ?_)
      exact Nat.lt_of_le_of_lt (Nat.zero_le _) (length_utf8_lt_cons d ds)
    rw [hn]
    exact List.Lex.nil
  | rel hcd => exact utf8EncodeChar_append_lt hcd _ _
  | cons _ ih =>
    rw [utf8_cons, utf8_cons]
    exact List.append_left_lt ih

/-- The bytes of a text are its UTF-8 form. -/
theorem toList_toUTF8 (s : String) : s.toUTF8.data.toList = utf8 s.toList := by
  have hbytes : (utf8 s.toList).toByteArray = s.toByteArray := String.utf8Encode_toList
  rw [String.toUTF8, ← hbytes, List.toList_data_toByteArray]

/-- Texts stand in the order of their bytes. -/
theorem toUTF8_lt {s t : String} (h : s < t) : s.toUTF8.data.toList < t.toUTF8.data.toList := by
  rw [toList_toUTF8, toList_toUTF8]
  exact utf8_lt (String.lt_iff.mp h)

end Isochrone.Text
