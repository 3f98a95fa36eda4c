import Isochrone.Proofs.FeatureIndex

/-!
# The contents of an index

A response whose features all have a usable time is indexed, and its index holds, under each time,
the last feature of the response that has it. All else follows: the times are those of the
response, each once and in ascending order, and a feature stands under its own time, however that
is spelt.
-/

namespace Isochrone

open Json (Value)

namespace FeatureIndex

/-- The features that stand with a time are those that have it. -/
theorem map_snd_filter_timed (features : List Feature) (seconds : UInt32) :
    ((timed features).filter fun entry => compare seconds entry.1 = .eq).map Prod.snd =
      features.filter fun f => f.cutoff? = some seconds := by
  induction features with
  | nil => rfl
  | cons f features ih =>
    cases hcutoff : f.cutoff? with
    | none =>
      have htimed : timed (f :: features) = timed features := by simp [timed, hcutoff]
      rw [htimed, ih, List.filter_cons_of_neg (by simp [hcutoff])]
    | some n =>
      rw [timed_cons hcutoff]
      by_cases hn : seconds = n
      · subst hn
        rw [List.filter_cons_of_pos (by simp), List.map_cons, ih,
          List.filter_cons_of_pos (by simp [hcutoff])]
      · have hother : compare seconds n ≠ .eq := fun he => hn (Std.LawfulEqCmp.eq_of_compare he)
        have hcutoff' : f.cutoff? ≠ some seconds := by
          rw [hcutoff]
          exact fun he => hn (Option.some.inj he).symm
        rw [List.filter_cons_of_neg (by simpa using hother), ih,
          List.filter_cons_of_neg (by simpa using hcutoff')]

/-- An index answers the last feature of a time. -/
theorem get?_ofList_timed (features : List Feature) (seconds : UInt32) :
    (⟨.ofList (timed features)⟩ : FeatureIndex).get? seconds =
      (features.filter fun f => f.cutoff? = some seconds).getLast? := by
  rw [get?, SortedMap.get?_ofList, SortedMap.lookupEntry_eq_head?, List.filter_reverse,
    List.head?_reverse, ← List.getLast?_map, map_snd_filter_timed]

theorem map_fst_timed (features : List Feature) :
    (timed features).map Prod.fst = features.filterMap Feature.cutoff? := by
  rw [timed, List.map_filterMap]
  congr 1
  funext f
  cases f.cutoff? with
  | none => rfl
  | some seconds => rfl

/-- There are as many features as times among those of the response. -/
theorem size_ofList_timed (features : List Feature) :
    (⟨.ofList (timed features)⟩ : FeatureIndex).size =
      (features.filterMap Feature.cutoff?).dedup.length := by
  rw [size, SortedMap.size_ofList, map_fst_timed]

theorem mem_cutoffs_ofList_timed {features : List Feature} {seconds : UInt32} :
    seconds ∈ (⟨.ofList (timed features)⟩ : FeatureIndex).cutoffs ↔
      ∃ f ∈ features, f.cutoff? = some seconds := by
  rw [cutoffs, SortedMap.mem_keys_ofList, map_fst_timed, List.mem_filterMap]

/-- Where every feature has a usable time, only no features make an index without features. -/
theorem isEmpty_ofList_timed {features : List Feature}
    (h : ∀ f ∈ features, f.cutoff?.isSome = true) :
    (⟨.ofList (timed features)⟩ : FeatureIndex).isEmpty = true ↔ features = [] := by
  constructor
  · intro hempty
    cases features with
    | nil => rfl
    | cons f features =>
      obtain ⟨seconds, hseconds⟩ := Option.isSome_iff_exists.mp (h f List.mem_cons_self)
      have hmem : seconds ∈ (⟨.ofList (timed (f :: features))⟩ : FeatureIndex).cutoffs :=
        mem_cutoffs_ofList_timed.mpr ⟨f, List.mem_cons_self, hseconds⟩
      rw [cutoffs, SortedMap.keys, List.isEmpty_iff.mp hempty] at hmem
      cases hmem
  · rintro rfl
    rfl

/-- A response whose features all have a usable time is indexed. Its index answers a time with the
last feature that has it, lists the times of the response in strictly ascending order, each with a
feature whose own time it is, counts them without repetition, and is empty for no features
only. -/
theorem holds_last_of_each_time (response : Response)
    (h : ∀ f ∈ response.features, f.cutoff?.isSome = true) :
    ∃ index, (ofResponse response).outcome = .ok index ∧
      (∀ seconds, index.get? seconds =
        (response.features.filter fun f => f.cutoff? = some seconds).getLast?) ∧
      index.cutoffs.Pairwise (· < ·) ∧
      (∀ seconds, seconds ∈ index.cutoffs ↔
        ∃ f ∈ response.features, f.cutoff? = some seconds) ∧
      index.toList.map Prod.fst = index.cutoffs ∧
      (∀ entry ∈ index.toList,
        index.get? entry.1 = some entry.2 ∧ entry.2.cutoff? = some entry.1) ∧
      index.size = (response.features.filterMap Feature.cutoff?).dedup.length ∧
      (index.isEmpty = true ↔ response.features = []) := by
  have hindex : (ofResponse response).outcome = .ok ⟨.ofList (timed response.features)⟩ :=
    outcome_addFrom_eq_ok_iff.mpr ⟨h, rfl⟩
  refine ⟨_, hindex, get?_ofList_timed response.features, cutoffs_ascending _,
    fun seconds => mem_cutoffs_ofList_timed, rfl, ?_, size_ofList_timed response.features,
    isEmpty_ofList_timed h⟩
  intro entry hentry
  exact ⟨SortedMap.get?_eq_some_iff.mpr hentry, (mem_of_ofResponse hindex entry hentry).2⟩

/-- A feature with nothing but a time. -/
def timedBy (key : String) (v : Value) : Feature :=
  { Feature.empty with properties := SortedMap.empty.insert key v }

/-- Five minutes as an integer, as a float and as a text with blanks, and one minute in between. -/
def respelt : Response :=
  ⟨[timedBy "Time" (.ofUInt32 300), timedBy "time" (.ofBinary64 (.ofRatio false 300 1)),
    timedBy "time" (.ofUInt32 60), timedBy "Time" (.string " 300 ")]⟩

/-- All spellings of a time are one time, and the last feature that has it is held. -/
theorem holds_last_of_each_time_respelt :
    (∀ f ∈ respelt.features, f.cutoff?.isSome = true) ∧
    ∃ index, (ofResponse respelt).outcome = .ok index ∧ index.size = 2 ∧
      index.get? 300 = some (timedBy "Time" (.string " 300 ")) ∧
      index.get? 60 = some (timedBy "time" (.ofUInt32 60)) ∧ index.get? 61 = none := by
  have hinteger : (timedBy "Time" (.ofUInt32 300)).cutoff? = some 300 := by decide +kernel
  have hfloat : (timedBy "time" (.ofBinary64 (.ofRatio false 300 1))).cutoff? = some 300 := by
    decide +kernel
  have hminute : (timedBy "time" (.ofUInt32 60)).cutoff? = some 60 := by decide +kernel
  have htext : (timedBy "Time" (.string " 300 ")).cutoff? = some 300 := by decide +kernel
  have husable : ∀ f ∈ respelt.features, f.cutoff?.isSome = true := by
    simp [respelt, hinteger, hfloat, hminute, htext]
  obtain ⟨index, hindex, hget, -, -, -, -, hsize, -⟩ := holds_last_of_each_time respelt husable
  refine ⟨husable, index, hindex, ?_, ?_, ?_, ?_⟩
  · rw [hsize]
    simp [respelt, hinteger, hfloat, hminute, htext]
  · rw [hget]
    simp [respelt, hinteger, hfloat, hminute, htext]
  · rw [hget]
    simp [respelt, hinteger, hfloat, hminute, htext]
  · rw [hget]
    simp [respelt, hinteger, hfloat, hminute, htext]

end FeatureIndex

end Isochrone
