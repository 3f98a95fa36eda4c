import Isochrone.Form
import Isochrone.Proofs.Text.Percent
import Isochrone.Proofs.Text.Pieces

/-!
# Form-encoded pairs read back

The encoded form of a text is written with a small set of characters and reads back as that
text. The separators of pairs are outside this set, so every list of pairs reads back from its
encoded form, also where more pairs are appended to an encoded text that may be empty.
-/

namespace Isochrone.Form

open Text (percentDecode percentChar)

/-- The characters with which keys and values are written. -/
def isWritten (c : Char) : Bool := isPlain c || c = '+' || c = '%'

/-- What stands for itself is written. -/
theorem isWritten_of_isPlain {c : Char} (h : isPlain c = true) : isWritten c = true := by
  simp only [isWritten, h, Bool.true_or]

/-- A digit stands for itself. -/
theorem isPlain_of_isDigit {c : Char} (h : c.isDigit = true) : isPlain c = true := by
  have hdigit : ('0' ≤ c && c ≤ '9') = true := h
  simp only [isPlain, hdigit, Bool.or_true, Bool.true_or]

/-- A text of characters that stand for themselves is encoded as it is. -/
theorem encodeText_of_plain {s : String} (h : ∀ c ∈ s.toList, isPlain c = true) :
    encodeText s = s.toList := by
  have hchar : ∀ c ∈ s.toList, encodeChar c = [c] := fun c hc => if_pos (h c hc)
  rw [encodeText, List.flatMap_def, List.map_congr_left hchar, ← List.flatMap_def,
    List.flatMap_singleton']

/-- A percent sign and digits are written. -/
theorem isWritten_of_mem_percentChar {c x : Char} (h : x ∈ percentChar c) :
    isWritten x = true := by
  have hdigits : ∀ digit : Fin 16, isWritten (Text.upperHex digit) = true := by decide
  rcases Text.mem_percentChar h with rfl | ⟨digit, rfl⟩
  · decide
  · exact hdigits digit

/-- An encoded character is written with these characters. -/
theorem isWritten_of_mem_encodeChar {c x : Char} (h : x ∈ encodeChar c) :
    isWritten x = true := by
  unfold encodeChar at h
  split at h
  · rename_i hplain
    obtain rfl := List.mem_singleton.mp h
    exact isWritten_of_isPlain hplain
  · split at h
    · obtain rfl := List.mem_singleton.mp h
      decide
    · exact isWritten_of_mem_percentChar h

/-- An encoded text is written with these characters. -/
theorem isWritten_of_mem_encodeText {s : String} {x : Char} (h : x ∈ encodeText s) :
    isWritten x = true := by
  obtain ⟨c, -, hx⟩ := List.mem_flatMap.mp h
  exact isWritten_of_mem_encodeChar hx

/-- A character that is not written occurs in no encoded text. -/
theorem not_mem_encodeText {x : Char} (h : isWritten x = false) (s : String) :
    x ∉ encodeText s := by
  intro hx
  rw [isWritten_of_mem_encodeText hx] at h
  cases h

/-- The characters of an encoded pair. -/
theorem mem_encodePair {pair : String × String} {x : Char} (h : x ∈ encodePair pair) :
    isWritten x = true ∨ x = '=' := by
  rcases List.mem_append.mp h with hkey | hvalue
  · exact Or.inl (isWritten_of_mem_encodeText hkey)
  · rcases List.mem_cons.mp hvalue with rfl | hvalue
    · exact Or.inr rfl
    · exact Or.inl (isWritten_of_mem_encodeText hvalue)

/-- No encoded pair holds the ampersand that separates pairs. -/
theorem ampersand_not_mem_encodePair (pair : String × String) : '&' ∉ encodePair pair := by
  intro h
  rcases mem_encodePair h with hw | he
  · revert hw
    decide
  · cases he

/-- The blank for which a plus sign stands, and any other character as it is. -/
def blankPlus (c : Char) : Char := if c = '+' then ' ' else c

theorem blankPlus_of_ne {c : Char} (h : c ≠ '+') : blankPlus c = c := if_neg h

/-- A percent-encoded character holds no plus sign. -/
theorem map_blankPlus_percentChar (c : Char) :
    (percentChar c).map blankPlus = percentChar c := by
  have hdigits : ∀ digit : Fin 16, blankPlus (Text.upperHex digit) = Text.upperHex digit := by
    decide
  have hfixed : ∀ x ∈ percentChar c, blankPlus x = id x := by
    intro x hx
    rcases Text.mem_percentChar hx with rfl | ⟨digit, rfl⟩
    · decide
    · exact hdigits digit
  rw [List.map_congr_left hfixed, List.map_id]

/-- An encoded character reads back as the bytes of its UTF-8 form. -/
theorem percentDecode_encodeChar (c : Char) (rest : List Char) :
    percentDecode ((encodeChar c).map blankPlus ++ rest) =
      String.utf8EncodeChar c ++ percentDecode rest := by
  unfold encodeChar
  split
  · rename_i hplain
    have hplus : c ≠ '+' := by
      rintro rfl
      revert hplain
      decide
    have hpercent : c ≠ '%' := by
      rintro rfl
      revert hplain
      decide
    rw [List.map_singleton, blankPlus_of_ne hplus, List.singleton_append,
      Text.percentDecode_cons_of_ne hpercent]
  · split
    · rename_i hblank
      subst hblank
      exact Text.percentDecode_cons_of_ne (by decide) rest
    · rw [map_blankPlus_percentChar, Text.percentDecode_percentChar]

/-- An encoded text is decoded to its bytes, character by character. -/
theorem percentDecode_encodeText (cs : List Char) :
    percentDecode ((cs.flatMap encodeChar).map blankPlus) =
      cs.flatMap String.utf8EncodeChar := by
  induction cs with
  | nil => rfl
  | cons c cs ih =>
    rw [List.flatMap_cons, List.map_append, percentDecode_encodeChar, ih, List.flatMap_cons]

/-- The bytes of a text are UTF-8 of that text. -/
theorem fromUTF8?_toByteArray (s : String) : String.fromUTF8? s.toByteArray = some s := by
  have hvalid : s.toByteArray.IsValidUTF8 := by
    rw [← String.utf8Encode_toList]
    exact ByteArray.isValidUTF8_utf8Encode
  rw [String.fromUTF8?, dif_pos hvalid]
  exact congrArg some (String.toByteArray_inj.mp rfl)

/-- Bytes that are UTF-8 of a text are its bytes. -/
theorem eq_toByteArray_of_fromUTF8? {bytes : ByteArray} {s : String}
    (h : String.fromUTF8? bytes = some s) : bytes = s.toByteArray := by
  rw [String.fromUTF8?] at h
  split at h
  · obtain rfl := Option.some.inj h
    rfl
  · cases h

/-- An encoded text reads back. -/
theorem decodeText?_encodeText (s : String) : decodeText? (encodeText s) = some s := by
  have hbytes : percentDecode ((encodeText s).map blankPlus) =
      s.toList.flatMap String.utf8EncodeChar := percentDecode_encodeText s.toList
  have hutf8 : (s.toList.flatMap String.utf8EncodeChar).toByteArray = s.toByteArray :=
    String.utf8Encode_toList
  calc
    decodeText? (encodeText s) =
        String.fromUTF8? (percentDecode ((encodeText s).map blankPlus)).toByteArray := rfl
    _ = String.fromUTF8? s.toByteArray := by rw [hbytes, hutf8]
    _ = some s := fromUTF8?_toByteArray s

/-- An encoded pair reads back. -/
theorem decodePair?_encodePair (pair : String × String) :
    decodePair? (encodePair pair) = some pair := by
  have hequals : '=' ∉ encodeText pair.1 := not_mem_encodeText (by decide) pair.1
  simp only [decodePair?, encodePair, Text.splitFirst_append hequals, decodeText?_encodeText]
  rfl

/-- Encoded pairs read back one by one. -/
theorem mapM_decodePair? (pairs : List (String × String)) :
    (pairs.map encodePair).mapM decodePair? = some pairs := by
  induction pairs with
  | nil => rfl
  | cons pair pairs ih =>
    rw [List.map_cons, List.mapM_cons, decodePair?_encodePair, ih]
    rfl

/-- An encoded pair is not empty, since it holds an equals sign. -/
theorem encodePair_ne_nil (pair : String × String) : encodePair pair ≠ [] := by
  simp [encodePair]

/-- Further pairs are pieces behind ampersands. -/
theorem encodeMore_eq (pairs : List (String × String)) :
    encodeMore pairs = (pairs.map encodePair).flatMap ('&' :: ·) := by
  rw [List.flatMap_map]
  rfl

/-- No encoded pair is skipped as an empty piece. -/
theorem filter_encodePair (pairs : List (String × String)) :
    ((pairs.map encodePair).filter fun piece => !piece.isEmpty) = pairs.map encodePair := by
  apply List.filter_eq_self.mpr
  intro piece hpiece
  obtain ⟨pair, -, rfl⟩ := List.mem_map.mp hpiece
  simp [encodePair_ne_nil]

/-- Pairs after a first piece are read back after it. -/
theorem pieces_append_encodeMore {piece : List Char} (h : '&' ∉ piece)
    (pairs : List (String × String)) :
    Text.pieces '&' (piece ++ encodeMore pairs) = piece :: pairs.map encodePair := by
  rw [encodeMore_eq]
  apply Text.pieces_joined h
  intro other hother
  obtain ⟨pair, -, rfl⟩ := List.mem_map.mp hother
  exact ampersand_not_mem_encodePair pair

/-- Pairs that are appended to an encoded text read back behind its pairs, also where that text
is empty and they begin with an ampersand. -/
theorem decode?_encode_append (pairs more : List (String × String)) :
    decode? ((encode pairs).toList ++ encodeMore more) = some (pairs ++ more) := by
  cases pairs with
  | nil =>
    have hpieces : Text.pieces '&' ((encode []).toList ++ encodeMore more) =
        [] :: more.map encodePair := pieces_append_encodeMore List.not_mem_nil more
    rw [decode?, hpieces, List.filter_cons_of_neg (by simp), filter_encodePair]
    exact mapM_decodePair? more
  | cons first rest =>
    have hpieces : Text.pieces '&' ((encode (first :: rest)).toList ++ encodeMore more) =
        (first :: rest ++ more).map encodePair := by
      rw [encode, String.toList_ofList, List.append_assoc, encodeMore, encodeMore,
        ← List.flatMap_append]
      exact pieces_append_encodeMore (ampersand_not_mem_encodePair first) (rest ++ more)
    rw [decode?, hpieces, filter_encodePair]
    exact mapM_decodePair? _

/-- What such a text is written with. -/
theorem mem_encodeMore {pairs : List (String × String)} {x : Char}
    (h : x ∈ encodeMore pairs) : isWritten x = true ∨ x = '=' ∨ x = '&' := by
  obtain ⟨pair, -, hx⟩ := List.mem_flatMap.mp h
  rcases List.mem_cons.mp hx with rfl | hx
  · exact Or.inr (Or.inr rfl)
  · exact (mem_encodePair hx).imp_right Or.inl

/-- The characters of encoded pairs. -/
theorem mem_encode {pairs : List (String × String)} {x : Char}
    (h : x ∈ (encode pairs).toList) : isWritten x = true ∨ x = '=' ∨ x = '&' := by
  cases pairs with
  | nil => cases h
  | cons first rest =>
    rw [encode, String.toList_ofList] at h
    rcases List.mem_append.mp h with hfirst | hrest
    · exact (mem_encodePair hfirst).imp_right Or.inl
    · exact mem_encodeMore hrest

end Isochrone.Form
