import Isochrone.Proofs.FeatureIndex.Contents

/-!
# What an index warns of

Indexing warns of a feature that takes the place of an earlier one, and of no other, as long as no
feature without a usable time has ended it. So if it succeeds, every feature that is not in the
index has been warned of when it was replaced, and the last warning for a time names the feature
that is held.
-/

namespace Isochrone

namespace FeatureIndex

/-- Whether a warning names a feature of those that stand from a position on, before which all
features have usable times, with its time, which an index holds already or one of these features
has. -/
def Repeats (position : ℕ) (index : FeatureIndex) (features : List Feature)
    (warning : RepeatedCutoff) : Prop :=
  ∃ before f after, features = before ++ f :: after ∧
    warning.position = position + before.length ∧ f.cutoff? = some warning.seconds ∧
    (∀ g ∈ before, g.cutoff? ≠ none) ∧
    (index.toMap.contains warning.seconds = true ∨
      ∃ g ∈ before, g.cutoff? = some warning.seconds)

section AddFrom

variable {position : ℕ} {index : FeatureIndex} {first : Feature} {features : List Feature}
  {warning : RepeatedCutoff}

theorem not_repeats_nil : ¬ Repeats position index [] warning := by
  rintro ⟨before, f, after, hfeatures, -⟩
  simp at hfeatures

/-- Nothing is repeated from a feature on that has no usable time. -/
theorem not_repeats_of_none (h : first.cutoff? = none) :
    ¬ Repeats position index (first :: features) warning := by
  rintro ⟨before, f, after, hfeatures, -, hf, hbefore, -⟩
  cases before with
  | nil =>
    obtain ⟨rfl, -⟩ := List.cons.inj hfeatures
    rw [h] at hf
    cases hf
  | cons g before =>
    obtain ⟨rfl, -⟩ := List.cons.inj hfeatures
    exact hbefore first List.mem_cons_self h

/-- A feature is a repetition if the index holds its time, and makes its time one that is held for
the features behind it. -/
theorem repeats_cons_iff {seconds : UInt32} (h : first.cutoff? = some seconds) :
    Repeats position index (first :: features) warning ↔
      (index.toMap.contains seconds = true ∧ warning = ⟨seconds, position⟩) ∨
        Repeats (position + 1) ⟨index.toMap.insert seconds first⟩ features warning := by
  constructor
  · rintro ⟨before, f, after, hfeatures, hposition, hf, hbefore, hknown⟩
    cases before with
    | nil =>
      obtain ⟨rfl, -⟩ := List.cons.inj hfeatures
      obtain rfl : seconds = warning.seconds := Option.some.inj (h.symm.trans hf)
      obtain rfl : warning.position = position := hposition
      exact Or.inl ⟨by simpa using hknown, rfl⟩
    | cons g before =>
      obtain ⟨rfl, rfl⟩ := List.cons.inj hfeatures
      obtain ⟨-, hbefore⟩ := List.forall_mem_cons.mp hbefore
      refine Or.inr ⟨before, f, after, rfl, ?_, hf, hbefore, ?_⟩
      · rw [hposition, List.length_cons]
        omega
      · rw [SortedMap.contains_insert]
        rcases hknown with hindex | ⟨g, hg, hseconds⟩
        · exact Or.inl (Or.inr hindex)
        · rcases List.mem_cons.mp hg with rfl | hg
          · exact Or.inl (Or.inl (Option.some.inj (hseconds.symm.trans h)))
          · exact Or.inr ⟨g, hg, hseconds⟩
  · rintro (⟨hindex, rfl⟩ | ⟨before, f, after, rfl, hposition, hf, hbefore, hknown⟩)
    · exact ⟨[], first, features, rfl, rfl, h, List.forall_mem_nil _, Or.inl hindex⟩
    · refine ⟨first :: before, f, after, rfl, ?_, hf, ?_, ?_⟩
      · rw [hposition, List.length_cons]
        omega
      · exact List.forall_mem_cons.mpr ⟨by simp [h], hbefore⟩
      · rw [SortedMap.contains_insert] at hknown
        rcases hknown with (hnow | hindex) | ⟨g, hg, hseconds⟩
        · exact Or.inr ⟨first, List.mem_cons_self, hnow ▸ h⟩
        · exact Or.inl hindex
        · exact Or.inr ⟨g, List.mem_cons_of_mem _ hg, hseconds⟩

/-- Exactly the repetitions are warned of. -/
theorem mem_warnings_addFrom :
    warning ∈ (addFrom position index features).warnings ↔
      Repeats position index features warning := by
  induction features generalizing position index with
  | nil => exact iff_of_false List.not_mem_nil not_repeats_nil
  | cons first features ih =>
    cases hcutoff : first.cutoff? with
    | none =>
      rw [warnings_addFrom_of_none hcutoff]
      exact iff_of_false List.not_mem_nil (not_repeats_of_none hcutoff)
    | some seconds =>
      rw [warnings_addFrom_of_some hcutoff, List.mem_append, List.mem_ite_nil_right,
        List.mem_singleton, ih, repeats_cons_iff hcutoff]

/-- Warnings come in the order of the features. -/
theorem pairwise_warnings_addFrom (features : List Feature) :
    (addFrom position index features).warnings.Pairwise fun a b => a.position < b.position := by
  induction features generalizing position index with
  | nil => exact List.Pairwise.nil
  | cons first features ih =>
    cases hcutoff : first.cutoff? with
    | none =>
      rw [warnings_addFrom_of_none hcutoff]
      exact List.Pairwise.nil
    | some seconds =>
      rw [warnings_addFrom_of_some hcutoff]
      split
      · refine List.pairwise_cons.mpr ⟨fun warning hwarning => ?_, ih⟩
        -- a later feature stands behind this position
        obtain ⟨before, -, -, -, hposition, -⟩ := mem_warnings_addFrom.mp hwarning
        rw [hposition]
        show position < position + 1 + before.length
        omega
      · exact ih

/-- Every feature is a new one of the index or one that is warned of. -/
theorem length_warnings_addFrom {index' : FeatureIndex}
    (h : (addFrom position index features).outcome = .ok index') :
    (addFrom position index features).warnings.length + index'.size =
      index.size + features.length := by
  induction features generalizing position index with
  | nil =>
    cases h
    exact Nat.add_comm _ _
  | cons first features ih =>
    obtain ⟨seconds, hcutoff⟩ := Option.isSome_iff_exists.mp
      ((outcome_addFrom_eq_ok_iff.mp h).1 first List.mem_cons_self)
    rw [outcome_addFrom_of_some hcutoff] at h
    have hlater := ih h
    have hsize : (⟨index.toMap.insert seconds first⟩ : FeatureIndex).size =
        index.size + if index.toMap.contains seconds then 0 else 1 :=
      index.toMap.size_insert seconds first
    rw [warnings_addFrom_of_some hcutoff, List.length_append, List.length_cons]
    split at hsize
    · rw [if_pos ‹_›, List.length_singleton]
      omega
    · rw [if_neg ‹_›, List.length_nil]
      omega

end AddFrom

/-- The last of ascending positions is the largest. -/
theorem position_le_of_getLast? {warnings : List RepeatedCutoff} {last : RepeatedCutoff}
    (h : warnings.Pairwise fun a b => a.position < b.position)
    (hlast : warnings.getLast? = some last) :
    ∀ warning ∈ warnings, warning.position ≤ last.position := by
  obtain ⟨earlier, rfl⟩ := List.getLast?_eq_some_iff.mp hlast
  intro warning hwarning
  rcases List.mem_append.mp hwarning with hearlier | hself
  · exact Nat.le_of_lt
      ((List.pairwise_append.mp h).2.2 warning hearlier last List.mem_cons_self)
  · exact Nat.le_of_eq (congrArg _ (List.mem_singleton.mp hself))

/-- Where all features have usable times, one that stands behind another of its time is warned
of. -/
theorem warning_of_later {response : Response} (husable : ∀ f ∈ response.features, f.cutoff? ≠ none)
    {before between after : List Feature} {f g : Feature} {seconds : UInt32}
    (hfeatures : response.features = before ++ f :: (between ++ g :: after))
    (hf : f.cutoff? = some seconds) (hg : g.cutoff? = some seconds) :
    ⟨seconds, (before ++ f :: between).length⟩ ∈ (ofResponse response).warnings := by
  have hsplit : response.features = (before ++ f :: between) ++ g :: after := by
    rw [hfeatures, List.append_assoc, List.cons_append]
  refine mem_warnings_addFrom.mpr
    ⟨before ++ f :: between, g, after, hsplit, (Nat.zero_add _).symm, hg, ?_, ?_⟩
  · intro earlier hearlier
    apply husable
    rw [hsplit]
    exact List.mem_append_left _ hearlier
  · exact Or.inr ⟨f, List.mem_append_right _ List.mem_cons_self, hf⟩

/-- The last warning for a time names the last feature that has it. -/
theorem getLast?_filter_of_last_warning {response : Response} {seconds : UInt32}
    {last : RepeatedCutoff} (husable : ∀ f ∈ response.features, f.cutoff? ≠ none)
    (hlast : ((ofResponse response).warnings.filter fun w => w.seconds = seconds).getLast? =
      some last) :
    ∃ f, response.features[last.position]? = some f ∧
      (response.features.filter fun f => f.cutoff? = some seconds).getLast? = some f := by
  have hascending : ((ofResponse response).warnings.filter fun w => w.seconds = seconds).Pairwise
      fun a b => a.position < b.position := (pairwise_warnings_addFrom _).filter _
  obtain ⟨hmem, hseconds⟩ := List.mem_filter.mp (List.mem_of_getLast? hlast)
  obtain rfl : last.seconds = seconds := of_decide_eq_true hseconds
  obtain ⟨before, f, after, hfeatures, hposition, hf, -, -⟩ := mem_warnings_addFrom.mp hmem
  rw [Nat.zero_add] at hposition
  have hafter : after.filter (fun g => g.cutoff? = some last.seconds) = [] := by
    refine List.filter_eq_nil_iff.mpr fun g hg hcutoff => ?_
    -- such a feature would be warned of itself, at a later position
    obtain ⟨between, rest, rfl⟩ := List.append_of_mem hg
    have hlater := warning_of_later husable hfeatures hf (of_decide_eq_true hcutoff)
    have hle := position_le_of_getLast? hascending hlast _
      (List.mem_filter.mpr ⟨hlater, decide_eq_true rfl⟩)
    simp only [hposition, List.length_append, List.length_cons] at hle
    omega
  refine ⟨f, ?_, ?_⟩
  · rw [hfeatures, hposition, List.getElem?_append_right (Nat.le_refl _), Nat.sub_self]
    rfl
  · rw [hfeatures, List.filter_append, List.filter_cons_of_pos (by simpa using hf), hafter,
      List.getLast?_append]
    rfl

/-- Indexing warns of a feature, by its position and time, just if no feature up to it is without
a usable time and an earlier one has the same; the warnings come in the order of the features. If
it succeeds, there is a warning for every feature that the index has less than the response, and
the feature that is held for a time is the one that the last warning for this time names. -/
theorem warns_of_each_repeat (response : Response) :
    let indexing := ofResponse response
    (indexing.warnings.Pairwise fun a b => a.position < b.position) ∧
    (∀ warning, warning ∈ indexing.warnings ↔
      ∃ before f after, response.features = before ++ f :: after ∧
        warning.position = before.length ∧ f.cutoff? = some warning.seconds ∧
        (∀ g ∈ before, g.cutoff? ≠ none) ∧ ∃ g ∈ before, g.cutoff? = some warning.seconds) ∧
    ∀ index, indexing.outcome = .ok index →
      indexing.warnings.length + index.size = response.features.length ∧
      ∀ seconds last,
        (indexing.warnings.filter fun warning => warning.seconds = seconds).getLast? = some last →
        ∃ f, response.features[last.position]? = some f ∧ index.get? seconds = some f := by
  intro indexing
  refine ⟨pairwise_warnings_addFrom _, fun warning => ?_, fun index hindex => ⟨?_, ?_⟩⟩
  · have hnone : (empty.toMap.contains warning.seconds = true) ↔ False := by
      rw [iff_false]
      exact Bool.false_ne_true
    have hmem : warning ∈ indexing.warnings ↔ _ := mem_warnings_addFrom
    simpa only [Repeats, hnone, false_or, Nat.zero_add] using hmem
  · have hlength : indexing.warnings.length + index.size = 0 + response.features.length :=
      length_warnings_addFrom hindex
    rw [hlength, Nat.zero_add]
  · intro seconds last hlast
    have husable := exists_outcome_addFrom_eq_ok_iff.mp ⟨index, hindex⟩
    obtain ⟨-, rfl⟩ := outcome_addFrom_eq_ok_iff.mp hindex
    obtain ⟨f, hposition, hheld⟩ := getLast?_filter_of_last_warning husable hlast
    exact ⟨f, hposition, (get?_ofList_timed response.features seconds).trans hheld⟩

end FeatureIndex

end Isochrone
