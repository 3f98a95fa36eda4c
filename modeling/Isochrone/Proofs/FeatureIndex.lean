import Isochrone.FeatureIndex
import Isochrone.Proofs.Feature

/-!
# What an index holds

Indexing succeeds just if every feature has a usable time, and then writes the features under
their times one after another. So each feature of an index stands under its own time, and
features whose times differ are indexed without a warning.
-/

namespace Isochrone

namespace Feature

/-- The time under which a feature is indexed is the one that it tells. -/
theorem cutoffAt_eq_ok {f : Feature} {position : Nat} {seconds : UInt32} :
    f.cutoffAt position = .ok seconds ↔ f.cutoff? = some seconds := by
  rw [cutoffAt, cutoff?]
  cases f.timeValue? with
  | none => simp
  | some v =>
    rw [Option.bind_some]
    cases hseconds : wholeSeconds? v with
    | none => simp [hseconds]
    | some n => simp [hseconds]

end Feature

namespace FeatureIndex

/-- The features that have a usable time, with it, in their order. -/
def timed (features : List Feature) : List (UInt32 × Feature) :=
  features.filterMap fun f => f.cutoff?.map fun seconds => (seconds, f)

theorem mem_timed {features : List Feature} {entry : UInt32 × Feature} :
    entry ∈ timed features ↔ entry.2 ∈ features ∧ entry.2.cutoff? = some entry.1 := by
  obtain ⟨seconds, f⟩ := entry
  simp only [timed, List.mem_filterMap, Option.map_eq_some_iff, Prod.mk.injEq]
  constructor
  · rintro ⟨g, hg, n, hn, rfl, rfl⟩
    exact ⟨hg, hn⟩
  · rintro ⟨hf, hseconds⟩
    exact ⟨f, hf, seconds, hseconds, rfl, rfl⟩

theorem timed_cons {f : Feature} {seconds : UInt32} (h : f.cutoff? = some seconds)
    (features : List Feature) : timed (f :: features) = (seconds, f) :: timed features := by
  simp [timed, h]

/-- Features that stand with their times are timed so. -/
theorem timed_map_snd {entries : List (UInt32 × Feature)}
    (h : ∀ entry ∈ entries, entry.2.cutoff? = some entry.1) :
    timed (entries.map Prod.snd) = entries := by
  induction entries with
  | nil => rfl
  | cons entry entries ih =>
    obtain ⟨hentry, hentries⟩ := List.forall_mem_cons.mp h
    rw [List.map_cons, timed_cons hentry, ih hentries]

section AddFrom

variable {position : Nat} {index : FeatureIndex} {f : Feature} {features : List Feature}

/-- A feature without a usable time ends the indexing. -/
theorem addFrom_of_none (h : f.cutoff? = none) :
    ∃ e, addFrom position index (f :: features) = ⟨[], .error e⟩ := by
  rw [addFrom]
  cases hcutoff : f.cutoffAt position with
  | error e => exact ⟨e, rfl⟩
  | ok seconds =>
    rw [Feature.cutoffAt_eq_ok.mp hcutoff] at h
    cases h

/-- A feature with a usable time is written under it. -/
theorem outcome_addFrom_of_some {seconds : UInt32} (h : f.cutoff? = some seconds) :
    (addFrom position index (f :: features)).outcome =
      (addFrom (position + 1) ⟨index.toMap.insert seconds f⟩ features).outcome := by
  rw [addFrom, Feature.cutoffAt_eq_ok.mpr h]
  simp only
  split <;> rfl

theorem warnings_addFrom_of_none (h : f.cutoff? = none) :
    (addFrom position index (f :: features)).warnings = [] := by
  obtain ⟨e, he⟩ : ∃ e, addFrom position index (f :: features) = ⟨[], .error e⟩ :=
    addFrom_of_none h
  rw [he]

/-- A feature whose time the index holds already is warned of. -/
theorem warnings_addFrom_of_some {seconds : UInt32} (h : f.cutoff? = some seconds) :
    (addFrom position index (f :: features)).warnings =
      (if index.toMap.contains seconds then [⟨seconds, position⟩] else []) ++
        (addFrom (position + 1) ⟨index.toMap.insert seconds f⟩ features).warnings := by
  rw [addFrom, Feature.cutoffAt_eq_ok.mpr h]
  simp only
  split <;> rfl

end AddFrom

/-- Indexing succeeds just if every feature has a usable time; then the features have been written
under their times in their order. -/
theorem outcome_addFrom_eq_ok_iff {position : Nat} {index index' : FeatureIndex}
    {features : List Feature} :
    (addFrom position index features).outcome = .ok index' ↔
      (∀ f ∈ features, f.cutoff?.isSome = true) ∧
        index' = ⟨index.toMap.insertAll (timed features)⟩ := by
  induction features generalizing position index with
  | nil =>
    have hnone : (addFrom position index []).outcome = .ok index := rfl
    rw [hnone, Except.ok.injEq, eq_comm]
    exact (and_iff_right (List.forall_mem_nil _)).symm
  | cons f features ih =>
    rw [List.forall_mem_cons]
    cases hcutoff : f.cutoff? with
    | none =>
      obtain ⟨e, he⟩ : ∃ e, addFrom position index (f :: features) = ⟨[], .error e⟩ :=
        addFrom_of_none hcutoff
      simp [he]
    | some seconds =>
      rw [outcome_addFrom_of_some hcutoff, ih, timed_cons hcutoff]
      simp [SortedMap.insertAll]

theorem exists_outcome_addFrom_eq_ok_iff {position : Nat} {index : FeatureIndex}
    {features : List Feature} :
    (∃ index', (addFrom position index features).outcome = .ok index') ↔
      ∀ f ∈ features, f.cutoff? ≠ none := by
  constructor
  · rintro ⟨index', h⟩ f hf
    exact Option.isSome_iff_ne_none.mp ((outcome_addFrom_eq_ok_iff.mp h).1 f hf)
  · intro h
    refine ⟨_, outcome_addFrom_eq_ok_iff.mpr ⟨fun f hf => ?_, rfl⟩⟩
    exact Option.isSome_iff_ne_none.mpr (h f hf)

/-- Features whose times differ from one another, and from those already there, are indexed
without a warning. -/
theorem warnings_addFrom_eq_nil {position : Nat} {index : FeatureIndex}
    {features : List Feature} (hnew : ∀ entry ∈ timed features, index.get? entry.1 = none)
    (hdistinct : (timed features).Pairwise fun a b => a.1 ≠ b.1) :
    (addFrom position index features).warnings = [] := by
  induction features generalizing position index with
  | nil => rfl
  | cons f features ih =>
    cases hcutoff : f.cutoff? with
    | none => exact warnings_addFrom_of_none hcutoff
    | some seconds =>
      rw [timed_cons hcutoff] at hnew hdistinct
      obtain ⟨hfirst, hrest⟩ := List.forall_mem_cons.mp hnew
      obtain ⟨hne, hdistinct⟩ := List.pairwise_cons.mp hdistinct
      have habsent : ¬ index.toMap.contains seconds = true := by
        rw [SortedMap.contains, show index.toMap.get? seconds = none from hfirst]
        exact Bool.false_ne_true
      rw [warnings_addFrom_of_some hcutoff, if_neg habsent, List.nil_append]
      refine ih (fun entry hentry => ?_) hdistinct
      -- the later features are new to the longer index too
      have hother : compare entry.1 seconds ≠ .eq := fun he =>
        hne entry hentry (Std.LawfulEqCmp.eq_of_compare he).symm
      rw [get?, SortedMap.get?_insert, if_neg hother]
      exact hrest entry hentry

/-- Each feature of an index is one of the response and stands under its own time. -/
theorem mem_of_ofResponse {response : Response} {index : FeatureIndex}
    (h : (ofResponse response).outcome = .ok index) :
    ∀ entry ∈ index.toList, entry.2 ∈ response.features ∧ entry.2.cutoff? = some entry.1 := by
  obtain ⟨-, rfl⟩ := outcome_addFrom_eq_ok_iff.mp h
  exact fun entry hentry => mem_timed.mp (SortedMap.mem_of_mem_ofList hentry)

/-- The times of an index ascend. -/
theorem cutoffs_ascending (index : FeatureIndex) : index.cutoffs.Pairwise (· < ·) := by
  rw [cutoffs, SortedMap.keys, List.pairwise_map]
  exact index.toMap.ascending.imp fun h => compareOfLessAndEq_eq_lt.mp h

/-- Features that stand with their times in ascending order make the index that lists them. -/
theorem ofResponse_entries {index : FeatureIndex}
    (h : ∀ entry ∈ index.toList, entry.2.cutoff? = some entry.1) :
    ofResponse ⟨index.toMap.values⟩ = ⟨[], .ok index⟩ := by
  have htimed : timed index.toMap.values = index.toList := timed_map_snd h
  have hwarnings : (ofResponse ⟨index.toMap.values⟩).warnings = [] := by
    refine warnings_addFrom_eq_nil (fun _ _ => rfl) ?_
    rw [htimed]
    exact index.toMap.keys_ne
  have houtcome : (ofResponse ⟨index.toMap.values⟩).outcome = .ok index := by
    refine outcome_addFrom_eq_ok_iff.mpr ⟨fun f hf => ?_, ?_⟩
    · obtain ⟨entry, hentry, rfl⟩ := List.mem_map.mp hf
      rw [h entry hentry]
      rfl
    · rw [htimed]
      exact congrArg FeatureIndex.mk index.toMap.ofList_entries.symm
  cases hindexing : ofResponse ⟨index.toMap.values⟩ with
  | mk warnings outcome =>
    rw [hindexing] at hwarnings houtcome
    rw [← hwarnings, ← houtcome]

end FeatureIndex

end Isochrone
