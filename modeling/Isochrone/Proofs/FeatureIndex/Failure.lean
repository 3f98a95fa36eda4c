import Isochrone.Proofs.FeatureIndex.Contents
import Mathlib.Data.List.Infix

/-!
# Where indexing fails

Indexing fails just if some feature has no usable time, and it is the first of these that it
reports: as one without a time if it holds neither time property, and else with the time that it
holds, the preferred one before the other. Nothing but the time properties up to this feature
counts.
-/

namespace Isochrone

open Json (Value)

namespace Feature

variable {f g : Feature}

/-- Whether a feature holds a value under a key; null is not held. -/
def Holds (f : Feature) (key : String) (v : Value) : Prop :=
  f.properties.get? key = some v ∧ v ≠ .null

/-- Whether a feature holds nothing under a key. -/
def Lacks (f : Feature) (key : String) : Prop := ∀ v, ¬ f.Holds key v

/-- The two time properties as they stand. -/
def times (f : Feature) : Option Value × Option Value :=
  (f.properties.get? timeKey, f.properties.get? lowerTimeKey)

/-- What is held under a key, if anything. -/
def held? (f : Feature) (key : String) : Option Value :=
  (f.properties.get? key).filter fun v => !v.isNull

theorem held?_eq_some_iff {key : String} {v : Value} :
    f.held? key = some v ↔ f.Holds key v := by
  have hnull : (!v.isNull) = true ↔ v ≠ .null := by cases v <;> simp [Value.isNull]
  rw [held?, Option.filter_eq_some_iff, hnull, Holds]

theorem held?_eq_none_iff {key : String} : f.held? key = none ↔ f.Lacks key := by
  rw [Option.eq_none_iff_forall_ne_some, Lacks]
  exact forall_congr' fun v => not_congr held?_eq_some_iff

theorem timeValue?_eq_or (f : Feature) :
    f.timeValue? = (f.held? timeKey).or (f.held? lowerTimeKey) := by
  have hlookup : f.timeValue? = [timeKey, lowerTimeKey].findSome? f.held? := rfl
  rw [hlookup, List.findSome?_cons, List.findSome?_cons, List.findSome?_nil]
  cases f.held? timeKey <;> cases f.held? lowerTimeKey <;> rfl

/-- The time of a feature is held under the preferred key, or under the other if nothing is held
there. -/
theorem timeValue?_eq_some_iff {v : Value} :
    f.timeValue? = some v ↔ f.Holds timeKey v ∨ f.Lacks timeKey ∧ f.Holds lowerTimeKey v := by
  rw [timeValue?_eq_or, Option.or_eq_some_iff, held?_eq_some_iff, held?_eq_none_iff,
    held?_eq_some_iff]

theorem timeValue?_eq_none_iff :
    f.timeValue? = none ↔ f.Lacks timeKey ∧ f.Lacks lowerTimeKey := by
  rw [timeValue?_eq_or, Option.or_eq_none_iff, held?_eq_none_iff, held?_eq_none_iff]

/-- The error of a feature without a usable time. -/
theorem cutoffAt_eq_error_iff {position : ℕ} {e : FeatureError} :
    f.cutoffAt position = .error e ↔
      f.timeValue? = none ∧ e = .missingTime position ∨
        ∃ v, f.timeValue? = some v ∧ wholeSeconds? v = none ∧
          e = .invalidTime position v.text := by
  rw [cutoffAt]
  cases f.timeValue? with
  | none => simp [eq_comm]
  | some v =>
    cases hseconds : wholeSeconds? v with
    | none => simp [hseconds, eq_comm]
    | some seconds => simp [hseconds]

/-- Only the time properties count for the time of a feature, and for the error without one. -/
theorem timeValue?_congr (h : f.times = g.times) : f.timeValue? = g.timeValue? := by
  obtain ⟨htime, hlower⟩ := Prod.mk.inj h
  rw [timeValue?_eq_or, timeValue?_eq_or, held?, held?, held?, held?, htime, hlower]

theorem cutoff?_congr (h : f.times = g.times) : f.cutoff? = g.cutoff? := by
  rw [cutoff?, cutoff?, timeValue?_congr h]

theorem cutoffAt_congr (h : f.times = g.times) (position : ℕ) :
    f.cutoffAt position = g.cutoffAt position := by
  rw [cutoffAt, cutoffAt, timeValue?_congr h]

/-- A feature without a usable time has an error at every position. -/
theorem exists_cutoffAt_eq_error (h : f.cutoff? = none) (position : ℕ) :
    ∃ e, f.cutoffAt position = .error e := by
  cases hcutoff : f.cutoffAt position with
  | error e => exact ⟨e, rfl⟩
  | ok seconds =>
    rw [cutoffAt_eq_ok.mp hcutoff] at h
    cases h

/-- A value under the preferred key is the time, whatever the other key holds. -/
theorem cutoff?_of_holds {v : Value} (h : f.Holds timeKey v) : f.cutoff? = wholeSeconds? v := by
  rw [cutoff?, timeValue?_eq_some_iff.mpr (Or.inl h), Option.bind_some]

end Feature

namespace FeatureIndex

variable {position : ℕ} {index : FeatureIndex} {before : List Feature} {f : Feature}

/-- Features with usable times only move the position of the others. -/
theorem outcome_addFrom_append (position : ℕ) (index : FeatureIndex)
    (hbefore : ∀ g ∈ before, g.cutoff? ≠ none) (features : List Feature) :
    ∃ index', (addFrom position index (before ++ features)).outcome =
      (addFrom (position + before.length) index' features).outcome := by
  induction before generalizing position index with
  | nil => exact ⟨index, rfl⟩
  | cons g before ih =>
    obtain ⟨hg, hbefore⟩ := List.forall_mem_cons.mp hbefore
    obtain ⟨seconds, hseconds⟩ := Option.ne_none_iff_exists'.mp hg
    obtain ⟨index', hindex⟩ := ih (position + 1) ⟨index.toMap.insert seconds g⟩ hbefore
    refine ⟨index', ?_⟩
    rw [List.cons_append, outcome_addFrom_of_some hseconds, hindex, List.length_cons]
    congr 2
    omega

/-- The first feature without a usable time decides the error. -/
theorem outcome_addFrom_of_first (hbefore : ∀ g ∈ before, g.cutoff? ≠ none) {e : FeatureError}
    (he : f.cutoffAt (position + before.length) = .error e) (after : List Feature) :
    (addFrom position index (before ++ f :: after)).outcome = .error e := by
  obtain ⟨index', hindex⟩ : ∃ index', _ :=
    outcome_addFrom_append position index hbefore (f :: after)
  rw [hindex, addFrom, he]

/-- Features with the same time properties up to the first without a usable time fail alike. -/
theorem outcome_addFrom_of_prefix (hbefore : ∀ g ∈ before, g.cutoff? ≠ none) {e : FeatureError}
    (he : f.cutoffAt (position + before.length) = .error e) {features : List Feature}
    (h : (before ++ [f]).map Feature.times <+: features.map Feature.times) :
    (addFrom position index features).outcome = .error e := by
  obtain ⟨front, ⟨after, rfl⟩, hfront⟩ := List.prefix_map_iff.mp h
  rw [List.map_append, eq_comm, List.map_eq_append_iff] at hfront
  obtain ⟨before', last, rfl, htimes, hlast⟩ := hfront
  obtain ⟨f', rfl, hf'⟩ := List.map_eq_singleton_iff.mp hlast
  have hlength : before'.length = before.length := by simpa using congrArg List.length htimes
  have hbefore' : ∀ g ∈ before', g.cutoff? ≠ none := by
    intro g' hg'
    have hmem : g'.times ∈ before.map Feature.times := htimes ▸ List.mem_map_of_mem hg'
    obtain ⟨g, hg, hgg'⟩ := List.mem_map.mp hmem
    rw [← Feature.cutoff?_congr hgg']
    exact hbefore g hg
  rw [List.append_assoc]
  refine outcome_addFrom_of_first hbefore' ?_ after
  rw [Feature.cutoffAt_congr hf', hlength]
  exact he

/-- Indexing fails just if some feature has no usable time. -/
theorem exists_outcome_eq_error_iff (response : Response) :
    (∃ e, (ofResponse response).outcome = .error e) ↔
      ∃ f ∈ response.features, f.cutoff? = none := by
  have herror : (∃ e, (ofResponse response).outcome = .error e) ↔
      ¬ ∃ index, (ofResponse response).outcome = .ok index := by
    cases (ofResponse response).outcome <;> simp
  have hok : (∃ index, (ofResponse response).outcome = .ok index) ↔
      ∀ f ∈ response.features, f.cutoff? ≠ none := exists_outcome_addFrom_eq_ok_iff
  rw [herror, hok]
  simp only [not_forall, not_not, exists_prop]

/-- Indexing fails just if some feature has no usable time, and with the error of the first such
feature, which names its position: that it has no time if it holds neither time property, and
otherwise the text of the one that it holds, the preferred one before the other. An unusable value
under the preferred key is not made good by the other key, and no feature behind the first one and
nothing but the two time properties of the features up to it makes a difference. -/
theorem fails_at_first_untimed (response : Response) :
    ((∃ e, (ofResponse response).outcome = .error e) ↔
      ∃ f ∈ response.features, f.cutoff? = none) ∧
    (∀ (f : Feature) (v : Value), f.Holds Feature.timeKey v → f.cutoff? = wholeSeconds? v) ∧
    ∀ before f after, response.features = before ++ f :: after →
      (∀ g ∈ before, g.cutoff? ≠ none) → f.cutoff? = none →
      ((ofResponse response).outcome = .error (.missingTime before.length) ↔
        f.Lacks Feature.timeKey ∧ f.Lacks Feature.lowerTimeKey) ∧
      (∀ v, f.Holds Feature.timeKey v ∨
          f.Lacks Feature.timeKey ∧ f.Holds Feature.lowerTimeKey v →
        (ofResponse response).outcome = .error (.invalidTime before.length v.text)) ∧
      ∀ other : Response,
        (before ++ [f]).map Feature.times <+: other.features.map Feature.times →
        (ofResponse other).outcome = (ofResponse response).outcome := by
  refine ⟨exists_outcome_eq_error_iff response, fun f v => Feature.cutoff?_of_holds, ?_⟩
  intro before f after hfeatures hbefore hf
  obtain ⟨e, he⟩ := Feature.exists_cutoffAt_eq_error hf (0 + before.length)
  have hfails : ∀ other : Response,
      (before ++ [f]).map Feature.times <+: other.features.map Feature.times →
      (ofResponse other).outcome = .error e :=
    fun other => outcome_addFrom_of_prefix hbefore he
  have houtcome : (ofResponse response).outcome = .error e := by
    refine hfails response ?_
    rw [hfeatures, List.append_cons before f after]
    exact (List.prefix_append _ _).map _
  rw [Nat.zero_add] at he
  refine ⟨?_, ?_, fun other hother => (hfails other hother).trans houtcome.symm⟩
  · rw [houtcome, Except.error.injEq, ← Feature.timeValue?_eq_none_iff]
    rcases Feature.cutoffAt_eq_error_iff.mp he with ⟨hnone, rfl⟩ | ⟨v, hv, -, rfl⟩
    · exact iff_of_true rfl hnone
    · simp [hv]
  · intro v hv
    rw [houtcome, Except.error.injEq]
    rw [← Feature.timeValue?_eq_some_iff] at hv
    rcases Feature.cutoffAt_eq_error_iff.mp he with ⟨hnone, -⟩ | ⟨v', hv', -, rfl⟩
    · rw [hnone] at hv
      cases hv
    · rw [Option.some.inj (hv.symm.trans hv')]

/-- A feature with an unusable value under the preferred key and a usable one under the other. -/
def misspelt : Feature :=
  { timedBy "time" (.ofUInt32 600) with
    properties := (timedBy "time" (.ofUInt32 600)).properties.insert "Time" (.string "soon") }

/-- Of two features without a usable time the first is reported, with its value; without the second
and under another identifier of the feature in front the error is the same. -/
theorem fails_at_first_untimed_misspelt :
    let punctual := timedBy "Time" (.ofUInt32 300)
    let response : Response := ⟨[punctual, misspelt, Feature.empty]⟩
    let other : Response := ⟨[{ punctual with id := some (.string "walk") }, misspelt]⟩
    (∀ g ∈ [punctual], g.cutoff? ≠ none) ∧ misspelt.cutoff? = none ∧
      misspelt.Holds Feature.timeKey (.string "soon") ∧
      (ofResponse response).outcome = .error (.invalidTime 1 "\"soon\"") ∧
      (ofResponse other).outcome = (ofResponse response).outcome := by
  intro punctual response other
  have hpunctual : ∀ g ∈ [punctual], g.cutoff? ≠ none := by
    have hcutoff : punctual.cutoff? = some 300 := by decide +kernel
    simp [hcutoff]
  have hmisspelt : misspelt.cutoff? = none := by decide +kernel
  have hholds : misspelt.Holds Feature.timeKey (.string "soon") := ⟨rfl, nofun⟩
  obtain ⟨-, hinvalid, hunaffected⟩ :=
    (fails_at_first_untimed response).2.2 [punctual] misspelt [Feature.empty] rfl hpunctual hmisspelt
  exact ⟨hpunctual, hmisspelt, hholds, hinvalid _ (Or.inl hholds),
    hunaffected other (List.prefix_refl _)⟩

end FeatureIndex

end Isochrone
