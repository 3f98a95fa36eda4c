import Isochrone.Text.Pieces

/-!
# Cutting undoes joining

A text without the separator is a single piece, and a separator ends a piece. So the pieces of
texts that are joined by a separator are those texts, as long as none of them contains it. Each
separator makes one piece more, and every piece is a part of the text.
-/

namespace Isochrone.Text

variable {separator : Char}

/-- The first occurrence of a separator is the one after a text without it. -/
theorem splitFirst_append {before : List Char} (h : separator ∉ before) (after : List Char) :
    splitFirst separator (before ++ separator :: after) = (before, after) := by
  induction before with
  | nil => simp only [List.nil_append, splitFirst, if_true]
  | cons c before ih =>
    obtain ⟨hc, hbefore⟩ := List.ne_and_not_mem_of_not_mem_cons h
    rw [List.cons_append, splitFirst, if_neg (Ne.symm hc), ih hbefore]

theorem pieces_separator_cons (rest : List Char) :
    pieces separator (separator :: rest) = [] :: pieces separator rest := by
  rw [pieces, if_pos rfl]

/-- A character other than the separator belongs to the piece that it begins. -/
theorem pieces_cons_of_ne {c : Char} {rest piece : List Char} {others : List (List Char)}
    (hc : c ≠ separator) (h : pieces separator rest = piece :: others) :
    pieces separator (c :: rest) = (c :: piece) :: others := by
  rw [pieces, if_neg hc, h]

theorem pieces_of_not_mem {cs : List Char} (h : separator ∉ cs) :
    pieces separator cs = [cs] := by
  induction cs with
  | nil => rfl
  | cons c cs ih =>
    obtain ⟨hc, hcs⟩ := List.ne_and_not_mem_of_not_mem_cons h
    exact pieces_cons_of_ne (Ne.symm hc) (ih hcs)

/-- A separator ends the piece before it. -/
theorem pieces_append_cons {piece : List Char} (h : separator ∉ piece) (rest : List Char) :
    pieces separator (piece ++ separator :: rest) = piece :: pieces separator rest := by
  induction piece with
  | nil => exact pieces_separator_cons rest
  | cons c piece ih =>
    obtain ⟨hc, hpiece⟩ := List.ne_and_not_mem_of_not_mem_cons h
    exact pieces_cons_of_ne (Ne.symm hc) (ih hpiece)

/-- Cutting gives back a first text and the texts that follow it, each after a separator. -/
theorem pieces_joined {piece : List Char} {others : List (List Char)} (h : separator ∉ piece)
    (hothers : ∀ other ∈ others, separator ∉ other) :
    pieces separator (piece ++ others.flatMap (separator :: ·)) = piece :: others := by
  induction others generalizing piece with
  | nil =>
    rw [List.flatMap_nil, List.append_nil]
    exact pieces_of_not_mem h
  | cons other others ih =>
    obtain ⟨hother, hrest⟩ := List.forall_mem_cons.mp hothers
    rw [List.flatMap_cons, List.cons_append, pieces_append_cons h, ih hother hrest]

theorem pieces_ne_nil (separator : Char) (cs : List Char) : pieces separator cs ≠ [] := by
  cases cs with
  | nil => simp [pieces]
  | cons c cs =>
    rw [pieces]
    split
    · simp
    · split <;> simp

/-- A text has one piece more than separators. -/
theorem length_pieces (separator : Char) (cs : List Char) :
    (pieces separator cs).length = cs.count separator + 1 := by
  induction cs with
  | nil => rfl
  | cons c cs ih =>
    by_cases hc : c = separator
    · subst hc
      rw [pieces_separator_cons, List.length_cons, ih, List.count_cons_self]
    · obtain ⟨piece, others, hp⟩ := List.exists_cons_of_ne_nil (pieces_ne_nil separator cs)
      rw [pieces_cons_of_ne hc hp, List.count_cons_of_ne hc, ← ih, hp]
      rfl

/-- The pieces of a text are parts of it. -/
theorem sublist_of_mem_pieces {piece cs : List Char} (h : piece ∈ pieces separator cs) :
    piece.Sublist cs := by
  induction cs generalizing piece with
  | nil =>
    obtain rfl := List.mem_singleton.mp h
    exact List.Sublist.refl []
  | cons c cs ih =>
    by_cases hc : c = separator
    · subst hc
      rw [pieces_separator_cons] at h
      rcases List.mem_cons.mp h with rfl | h
      · exact List.nil_sublist _
      · exact (ih h).cons c
    · obtain ⟨first, others, hp⟩ := List.exists_cons_of_ne_nil (pieces_ne_nil separator cs)
      rw [pieces_cons_of_ne hc hp] at h
      rcases List.mem_cons.mp h with rfl | h
      · exact (ih (hp ▸ List.mem_cons_self)).cons_cons c
      · exact (ih (hp ▸ List.mem_cons_of_mem _ h)).cons c

end Isochrone.Text
