import Isochrone.Text.Blank
import Mathlib.Data.List.TakeWhile

/-!
# Text without the blanks around it

Trimming takes blanks off both ends of a text and nothing else: the text is what is left with
blanks around it, and a text that begins and ends with something else is left as it is.
-/

namespace Isochrone.Text

/-- Trimming takes nothing but blanks off a text. -/
theorem exists_blanks_trim (cs : List Char) :
    ∃ before after, cs = before ++ trim cs ++ after ∧
      (∀ c ∈ before, isBlank c = true) ∧ ∀ c ∈ after, isBlank c = true := by
  have hblank : ∀ (cs : List Char), ∀ c ∈ cs.takeWhile isBlank, isBlank c = true :=
    fun _ _ hc => List.mem_takeWhile_imp hc
  refine ⟨cs.takeWhile isBlank, ((cs.dropWhile isBlank).reverse.takeWhile isBlank).reverse, ?_,
    hblank cs, ?_⟩
  · rw [trim, List.append_assoc, ← List.reverse_append, List.takeWhile_append_dropWhile,
      List.reverse_reverse, List.takeWhile_append_dropWhile]
  · intro c hc
    exact hblank _ c (List.mem_reverse.mp hc)

/-- Blanks at the start of a text are dropped. -/
theorem dropWhile_isBlank_append {before : List Char} (h : ∀ c ∈ before, isBlank c = true)
    {cs : List Char} (hcs : ∀ c ∈ cs.head?, isBlank c = false) :
    (before ++ cs).dropWhile isBlank = cs := by
  rw [List.dropWhile_append_of_pos h]
  cases cs with
  | nil => rfl
  | cons c cs => rw [List.dropWhile_cons_of_neg (by simp [hcs c rfl])]

/-- Trimming leaves what stands between blanks and has none itself. -/
theorem trim_append {before cs after : List Char} (hbefore : ∀ c ∈ before, isBlank c = true)
    (hafter : ∀ c ∈ after, isBlank c = true) (hcs : cs ≠ [])
    (hvisible : ∀ c ∈ cs, isBlank c = false) : trim (before ++ cs ++ after) = cs := by
  have hreversed : ∀ c ∈ after.reverse, isBlank c = true := fun c hc =>
    hafter c (List.mem_reverse.mp hc)
  have hhead : ∀ c ∈ (cs ++ after).head?, isBlank c = false := by
    intro c hc
    rw [List.head?_append, Option.or_of_isSome (List.isSome_head?.mpr hcs)] at hc
    exact hvisible c (List.mem_of_mem_head? hc)
  have hlast : ∀ c ∈ cs.reverse.head?, isBlank c = false := fun c hc =>
    hvisible c (List.mem_reverse.mp (List.mem_of_mem_head? hc))
  rw [trim, List.append_assoc, dropWhile_isBlank_append hbefore hhead, List.reverse_append,
    dropWhile_isBlank_append hreversed hlast, List.reverse_reverse]

end Isochrone.Text
