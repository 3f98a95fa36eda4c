import Isochrone.Proofs.Request.NullProperties
import Isochrone.Proofs.Stub

/-!
# Loads of made-up features

A stub transport records the URL for which it answers. Loaded from the features of one, a queued
request holds the times that they were made with, each with the last feature of its time, unless
one of them stands under a key that is no time property; the first of these is then reported.
-/

namespace Isochrone

variable {ι : Type}

/-- What a stub records in two stretches of events is what it records in the first and then in the
second. -/
theorem recordsOf_append (first second : List (Event ι)) :
    recordsOf (first ++ second) = recordsOf first ++ recordsOf second := List.filterMap_append

theorem recordsOf_notes (lines : List LogLine) :
    recordsOf (lines.map .note : List (Event ι)) = [] :=
  filterMap_notes (fun _ => rfl) lines

theorem recordsOf_heard (request : Request ι) (listeners : List ι) :
    recordsOf (listeners.map fun listener => .heard listener request) = [] :=
  filterMap_heard (fun _ _ => rfl) request listeners

namespace Request

variable {r : Request ι} {t : Transport}

/-- A stub records nothing while it is only called. -/
theorem recordsOf_issueEvents (t : Transport) (r : Request ι) : recordsOf (r.issueEvents t) = [] :=
  recordsOf_notes (t.notes r.url)

/-- A stub records the URL where it answers. -/
theorem recordsOf_answerEvents (r : Request ι) (warnings : List RepeatedCutoff) :
    recordsOf (r.answerEvents warnings) = [r.url] := by
  rw [answerEvents_eq]
  exact congrArg (r.url :: ·) (recordsOf_notes _)

theorem recordsOf_complete (r : Request ι) (features : FeatureIndex) :
    recordsOf (r.complete features).events = [] :=
  recordsOf_heard _ _

/-- A load of a queued request has its URL recorded once. -/
theorem recordsOf_load_of_queued (hq : r.state = .queued) (t : Transport) :
    recordsOf (r.load t).events = [r.url] := by
  rcases hf : t.fetchFeatures r.url with ⟨warnings, cause | features⟩
  · rw [load_of_failed hq hf, recordsOf_append, recordsOf_append, recordsOf_issueEvents,
      recordsOf_answerEvents]
    rfl
  · rw [load_of_indexed hq hf, recordsOf_append, recordsOf_append, recordsOf_issueEvents,
      recordsOf_answerEvents, recordsOf_complete]
    rfl

end Request

/-- A feature is answered for the times that are listed. -/
theorem FeatureIndex.isSome_get?_iff (index : FeatureIndex) (n : UInt32) :
    (index.get? n).isSome = true ↔ n ∈ index.cutoffs := by
  rw [Option.isSome_iff_exists, cutoffs, SortedMap.keys, List.mem_map]
  constructor
  · rintro ⟨f, hf⟩
    exact ⟨(n, f), SortedMap.get?_eq_some_iff.mp hf, rfl⟩
  · rintro ⟨⟨n, f⟩, hentry, rfl⟩
    exact ⟨f, SortedMap.get?_eq_some_iff.mpr hentry⟩

namespace Stub

/-- The features that are made of keys and times. -/
def madeOf (pairs : List (String × UInt32)) : List Feature :=
  pairs.map fun pair => made pair.1 pair.2

/-- A stub of features delivers them as they are made. -/
theorem delivers (delay : ℕ) (pairs : List (String × UInt32)) (url : RequestUrl) :
    (ofFeatures delay (pairs.map fun pair => feature pair.1 pair.2)).Delivers url
      ⟨madeOf pairs⟩ :=
  ⟨_, rfl, decode_collection pairs⟩

section Timed

variable {pairs : List (String × UInt32)} (h : ∀ pair ∈ pairs, IsTimeKey pair.1)
include h

theorem cutoff?_madeOf : ∀ f ∈ madeOf pairs, f.cutoff? ≠ none := by
  intro f hf
  obtain ⟨pair, hpair, rfl⟩ := List.mem_map.mp hf
  rw [cutoff?_made pair.2 (h pair hpair)]
  exact Option.some_ne_none pair.2

/-- The features that are made have just the travel times that are asked for. -/
theorem mem_madeOf_iff (n : UInt32) :
    (∃ f ∈ madeOf pairs, f.cutoff? = some n) ↔ n ∈ pairs.map Prod.snd := by
  constructor
  · rintro ⟨f, hf, hn⟩
    obtain ⟨pair, hpair, rfl⟩ := List.mem_map.mp hf
    rw [cutoff?_made pair.2 (h pair hpair)] at hn
    exact List.mem_map.mpr ⟨pair, hpair, Option.some.inj hn⟩
  · intro hn
    obtain ⟨pair, hpair, rfl⟩ := List.mem_map.mp hn
    exact ⟨_, List.mem_map_of_mem hpair, cutoff?_made pair.2 (h pair hpair)⟩

/-- The features of a time are those that are made with it. -/
theorem filter_madeOf (n : UInt32) :
    (madeOf pairs).filter (fun f => f.cutoff? = some n) =
      madeOf (pairs.filter fun pair => pair.2 = n) := by
  rw [madeOf, madeOf, List.filter_map]
  congr 1
  refine List.filter_congr fun pair hpair => ?_
  rw [Function.comp_apply, cutoff?_made pair.2 (h pair hpair)]
  exact decide_eq_decide.mpr Option.some_inj

/-- The index of features that are made under time properties. -/
theorem exists_index_madeOf : ∃ index,
    (FeatureIndex.ofResponse ⟨madeOf pairs⟩).outcome = .ok index ∧
      (∀ n, n ∈ index.cutoffs ↔ n ∈ pairs.map Prod.snd) ∧
      ∀ n, index.get? n =
        (pairs.filter fun pair => pair.2 = n).getLast?.map fun pair => made pair.1 pair.2 := by
  have husable : ∀ f ∈ madeOf pairs, f.cutoff?.isSome = true := fun f hf =>
    Option.isSome_iff_ne_none.mpr (cutoff?_madeOf h f hf)
  refine ⟨⟨.ofList (FeatureIndex.timed (madeOf pairs))⟩,
    FeatureIndex.outcome_addFrom_eq_ok_iff.mpr ⟨husable, rfl⟩, fun n => ?_, fun n => ?_⟩
  · rw [FeatureIndex.mem_cutoffs_ofList_timed, mem_madeOf_iff h]
  · rw [FeatureIndex.get?_ofList_timed, filter_madeOf h, madeOf, List.getLast?_map]

end Timed

/-- The first feature that is made under another key is the first without a time. -/
theorem isFirstError_madeOf {pairs : List (String × UInt32)}
    (h : ∃ pair ∈ pairs, ¬ IsTimeKey pair.1) :
    FeatureIndex.IsFirstError (madeOf pairs)
      (.missingTime (pairs.findIdx fun pair => ¬ IsTimeKey pair.1)) := by
  obtain ⟨⟨key, seconds⟩, hfind⟩ :
      ∃ pair, pairs.find? (fun pair => ¬ IsTimeKey pair.1) = some pair :=
    Option.isSome_iff_exists.mp (List.find?_isSome.mpr (by simpa using h))
  obtain ⟨hkey, before, after, hpairs, hbefore⟩ := List.find?_eq_some_iff_append.mp hfind
  have hkeys : ∀ pair ∈ before, IsTimeKey pair.1 := by simpa using hbefore
  have hposition : pairs.findIdx (fun pair => ¬ IsTimeKey pair.1) = before.length := by
    have hnone : before.findIdx (fun pair => ¬ IsTimeKey pair.1) = before.length :=
      List.findIdx_eq_length_of_false fun pair hpair => by simp [hkeys pair hpair]
    rw [hpairs, List.findIdx_append, hnone, if_neg (Nat.lt_irrefl _), List.findIdx_cons, hkey,
      cond_true, Nat.zero_add]
  refine ⟨madeOf before, made key seconds, madeOf after, ?_, cutoff?_madeOf hkeys, ?_⟩
  · rw [hpairs, madeOf, List.map_append, List.map_cons]
    rfl
  · rw [hposition, cutoffAt_made seconds (of_decide_eq_true hkey), madeOf, List.length_map]

end Stub

namespace Request

variable {r : Request ι} (hq : r.state = .queued) (delay : ℕ) {pairs : List (String × UInt32)}
include hq

/-- A queued request is loaded from features that are made under time properties. -/
theorem load_of_timeKeys (h : ∀ pair ∈ pairs, Stub.IsTimeKey pair.1) :
    let done := r.load (Stub.ofFeatures delay (pairs.map fun pair => Stub.feature pair.1 pair.2))
    done.result = .ok () ∧ done.request.state = .loaded ∧
      (∀ n, n ∈ done.request.features.cutoffs ↔ n ∈ pairs.map Prod.snd) ∧
      ∀ n, done.request.feature? n = (pairs.filter fun pair => pair.2 = n).getLast?.map
        fun pair => Stub.made pair.1 pair.2 := by
  obtain ⟨index, hindex, hmem, hget⟩ := Stub.exists_index_madeOf h
  obtain ⟨hresult, hloaded⟩ :=
    load_of_fetches_ok hq (.indexed (Stub.delivers delay pairs r.url) hindex)
  intro done
  refine ⟨hresult, congrArg Request.state hloaded, fun n => ?_, fun n => ?_⟩
  · rw [show done.request = _ from hloaded]
    exact hmem n
  · rw [show done.request = _ from hloaded]
    exact hget n

/-- A feature under another key leaves the request with the error that names its position. -/
theorem load_of_otherKey (h : ∃ pair ∈ pairs, ¬ Stub.IsTimeKey pair.1) :
    let done := r.load (Stub.ofFeatures delay (pairs.map fun pair => Stub.feature pair.1 pair.2))
    let cause : LoadError :=
      .feature (.missingTime (pairs.findIdx fun pair => ¬ Stub.IsTimeKey pair.1))
    done.result = .error cause ∧ done.request = { r with state := .failed cause } := by
  have hindex := FeatureIndex.outcome_of_isFirstError (Stub.isFirstError_madeOf h)
  obtain ⟨hresult, hfailed, -⟩ :=
    load_of_fetches_error hq (.unusable (Stub.delivers delay pairs r.url) hindex)
  exact ⟨hresult, hfailed⟩

/-- A queued request is loaded with the cutoffs that a stub is made of. -/
theorem load_of_cutoffs (cutoffs : List UInt32) :
    let done := r.load (Stub.ofCutoffs delay cutoffs)
    done.result = .ok () ∧ done.request.state = .loaded ∧
      ∀ n, n ∈ done.request.features.cutoffs ↔ n ∈ cutoffs := by
  have hkeys : ∀ pair ∈ cutoffs.map fun n => (Feature.timeKey, n), Stub.IsTimeKey pair.1 :=
    List.forall_mem_map.mpr fun _ _ => Or.inl rfl
  have hseconds : (cutoffs.map fun n => (Feature.timeKey, n)).map Prod.snd = cutoffs := by
    rw [List.map_map]
    exact List.map_id' cutoffs
  obtain ⟨hresult, hstate, hmem, -⟩ := load_of_timeKeys hq delay hkeys
  rw [hseconds] at hmem
  rw [List.map_map] at hresult hstate hmem
  exact ⟨hresult, hstate, hmem⟩

end Request

namespace History

/-- A queued request that is loaded, in a blocking way or not, from features that a stub is made of
has its URL recorded once. If each of the features was made under one of the time properties, the
request is loaded with their times, each once and in ascending order; a time is answered just if it
is among them, with the last feature that was made with it. Otherwise the first feature that was
made under another key is reported without a time, at its position, and no feature is held. So a
stub that is made of cutoffs always leaves the request loaded with these. -/
theorem loads_as_announced (h : History ι) (hq : h.request.state = .queued) (delay : ℕ)
    (pairs : List (String × UInt32)) :
    let r := h.request
    let t := Stub.ofFeatures delay (pairs.map fun pair => Stub.feature pair.1 pair.2)
    let done := r.load t
    (∀ caller, caller = .outside ∨ caller = .multiThread → r.loadBlocking caller t = done) ∧
    recordsOf done.events = [r.url] ∧
    ((∀ pair ∈ pairs, pair.1 = "Time" ∨ pair.1 = "time") →
      done.result = .ok () ∧ done.request.state = .loaded ∧
      done.request.features.cutoffs.Pairwise (· < ·) ∧
      (∀ n, n ∈ done.request.features.cutoffs ↔ n ∈ pairs.map Prod.snd) ∧
      ∀ n, ((done.request.feature? n).isSome = true ↔ n ∈ pairs.map Prod.snd) ∧
        ∀ f, done.request.feature? n = some f ↔
          ∃ pair, (pairs.filter fun pair => pair.2 = n).getLast? = some pair ∧
            Reading.ofValue Feature.decode (Stub.feature pair.1 pair.2) = .ok f ∧
            f.toGeoJson = Stub.feature pair.1 pair.2) ∧
    ((∃ pair ∈ pairs, ¬ (pair.1 = "Time" ∨ pair.1 = "time")) →
      let position := pairs.findIdx fun pair => ¬ (pair.1 = "Time" ∨ pair.1 = "time")
      done.result = .error (.feature (.missingTime position)) ∧
      done.request.state = .failed (.feature (.missingTime position)) ∧
      done.request.features = .empty) ∧
    ∀ cutoffs,
      let done := r.load (Stub.ofCutoffs delay cutoffs)
      done.result = .ok () ∧ done.request.state = .loaded ∧
      done.request.features.cutoffs.Pairwise (· < ·) ∧
      ∀ n, n ∈ done.request.features.cutoffs ↔ n ∈ cutoffs := by
  intro r t done
  refine ⟨?_, Request.recordsOf_load_of_queued hq t, fun hkeys => ?_, fun hkey => ?_,
    fun cutoffs => ?_⟩
  · rintro caller (rfl | rfl) <;> rfl
  · obtain ⟨hresult, hstate, hmem, hget⟩ := Request.load_of_timeKeys hq delay hkeys
    refine ⟨hresult, hstate, FeatureIndex.cutoffs_ascending _, hmem, fun n => ⟨?_, fun f => ?_⟩⟩
    · rw [← hmem]
      exact FeatureIndex.isSome_get?_iff _ n
    · rw [hget, Option.map_eq_some_iff]
      refine exists_congr fun pair => and_congr_right fun _ => ?_
      rw [Reading.ofValue, Stub.decode_feature, Except.ok.injEq, iff_self_and]
      rintro rfl
      exact Stub.toGeoJson_made _ _
  · obtain ⟨hresult, hfailed⟩ := Request.load_of_otherKey hq delay hkey
    refine ⟨hresult, congrArg Request.state hfailed, ?_⟩
    rw [show done.request = _ from hfailed]
    exact h.sound.unloaded (by simp [hq])
  · obtain ⟨hresult, hstate, hmem⟩ := Request.load_of_cutoffs hq delay cutoffs
    exact ⟨hresult, hstate, FeatureIndex.cutoffs_ascending _, hmem⟩

/-- Of two features with one time the later one is held, under whichever time property, and a key
with other letters than these is reported. -/
theorem loads_as_announced_repeated :
    let r := awaited.request
    let pairs : List (String × UInt32) := [("time", 600), ("Time", 4294967295), ("Time", 600)]
    let longer : List (String × UInt32) := pairs ++ [("TIME", 0)]
    let made := r.load (Stub.ofFeatures 1 (pairs.map fun pair => Stub.feature pair.1 pair.2))
    let missed := r.load (Stub.ofFeatures 1 (longer.map fun pair => Stub.feature pair.1 pair.2))
    r.state = .queued ∧ recordsOf made.events = [r.url] ∧ made.request.state = .loaded ∧
      (∀ n, n ∈ made.request.features.cutoffs ↔ n ∈ [600, 4294967295, 600]) ∧
      (∃ f, made.request.feature? 600 = some f ∧ f.toGeoJson = Stub.feature "Time" 600) ∧
      missed.result = .error (.feature (.missingTime 3)) := by
  intro r pairs longer made missed
  have hkeys : ∀ pair ∈ pairs, pair.1 = "Time" ∨ pair.1 = "time" := by decide
  obtain ⟨-, hrecords, hloads, -⟩ := loads_as_announced awaited rfl 1 pairs
  obtain ⟨-, hstate, -, hmem, hget⟩ := hloads hkeys
  obtain ⟨-, -, -, hfails, -⟩ := loads_as_announced awaited rfl 1 longer
  refine ⟨rfl, hrecords, hstate, hmem, ?_, (hfails (by decide)).1⟩
  obtain ⟨f, hf⟩ := Option.isSome_iff_exists.mp ((hget 600).1.mpr (by simp [pairs]))
  obtain ⟨pair, hlast, -, hfeature⟩ := ((hget 600).2 f).mp hf
  obtain rfl : ("Time", 600) = pair := Option.some.inj hlast
  exact ⟨f, hf, hfeature⟩

end History

end Isochrone
