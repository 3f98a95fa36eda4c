import Isochrone.Proofs.Feature.Objects
import Isochrone.Proofs.FeatureIndex.Failure
import Isochrone.Proofs.Request.Report

/-!
# Features with null properties

A feature without properties has no time, and indexing reports it at its position. A feature whose
properties are null, as a map document may have it, is not told from one that is no object at all:
the whole response is malformed, wherever the feature stands, although a null identifier or area is
as good as none. Without such a feature a response that lists objects is never malformed.
-/

namespace Isochrone

open Json (Value)

variable {ι : Type}

namespace FeatureIndex

variable {features : List Feature} {e : FeatureError}

/-- An error is that of the first feature without a usable time. -/
def IsFirstError (features : List Feature) (e : FeatureError) : Prop :=
  ∃ before f after, features = before ++ f :: after ∧ (∀ g ∈ before, g.cutoff? ≠ none) ∧
    f.cutoffAt before.length = .error e

/-- The first error of the features is the error of their response. -/
theorem outcome_of_isFirstError (h : IsFirstError features e) :
    (ofResponse ⟨features⟩).outcome = .error e := by
  obtain ⟨before, f, after, rfl, hbefore, he⟩ := h
  rw [← Nat.zero_add before.length] at he
  exact outcome_addFrom_of_first hbefore he after

/-- Features are all indexed or the first without a usable time is reported. -/
theorem indexes_or_isFirstError (features : List Feature) :
    (∃ index, (ofResponse ⟨features⟩).outcome = .ok index) ∧ (∀ f ∈ features, f.cutoff? ≠ none) ∨
      ∃ e, IsFirstError features e := by
  cases hfind : features.find? fun f => f.cutoff?.isNone with
  | none =>
    have husable : ∀ f ∈ features, f.cutoff? ≠ none := by
      simpa [List.find?_eq_none] using hfind
    exact Or.inl ⟨exists_outcome_addFrom_eq_ok_iff.mpr husable, husable⟩
  | some f =>
    obtain ⟨hf, before, after, hfeatures, hbefore⟩ := List.find?_eq_some_iff_append.mp hfind
    obtain ⟨e, he⟩ :=
      Feature.exists_cutoffAt_eq_error (Option.isNone_iff_eq_none.mp hf) before.length
    refine Or.inr ⟨e, before, f, after, hfeatures, fun g hg hnone => ?_, he⟩
    simpa [hnone] using hbefore g hg

end FeatureIndex

/-- An object without properties stands for a feature without a time. -/
theorem Feature.cutoffAt_ofObject_of_absent {object : SortedMap String Value}
    (h : object.get? "properties" = none) (position : ℕ) :
    (ofObject object).cutoffAt position = .error (.missingTime position) := by
  have hproperties : (ofObject object).properties = .empty := by
    rw [ofObject, h]
  have htime : (ofObject object).timeValue? = none := by
    rw [timeValue?, hproperties]
    rfl
  rw [cutoffAt, htime]

namespace Request

variable {t : Transport} {r : Request ι} {features : List Feature}
  (hq : r.state = .queued) (h : t.Delivers r.url ⟨features⟩)
include hq h

/-- A load fails with the first error of the features that it gets. -/
theorem load_of_isFirstError {e : FeatureError} (he : FeatureIndex.IsFirstError features e) :
    (r.load t).result = .error (.feature e) :=
  (load_of_fetches_error hq (.unusable h (FeatureIndex.outcome_of_isFirstError he))).1

/-- Features that are delivered are all indexed, or the first without a usable time is reported. -/
theorem load_of_delivers :
    (r.load t).result = .ok () ∧ (∀ f ∈ features, f.cutoff? ≠ none) ∨
      ∃ e, (r.load t).result = .error (.feature e) ∧ FeatureIndex.IsFirstError features e := by
  rcases FeatureIndex.indexes_or_isFirstError features with ⟨⟨index, hindex⟩, husable⟩ | ⟨e, he⟩
  · exact Or.inl ⟨(load_of_fetches_ok hq (.indexed h hindex)).1, husable⟩
  · exact Or.inr ⟨e, load_of_isFirstError hq h he, he⟩

end Request

namespace History

/-- Where a document lists objects with members such as a feature has, a load of a queued request
reports it as malformed just if one of them has null properties. Otherwise the load succeeds, if
every object stands for a feature with a usable time, or it reports the first that does not; one
without properties is reported as without a time, at its position. -/
theorem malformed_iff_null_properties (h : History ι) (t : Transport)
    (hq : h.request.state = .queued) {body : Value} {objects : List (SortedMap String Value)}
    (hanswer : t.answer h.request.url = .ok body) (hbody : Response.Lists body objects) :
    let r := h.request
    let result := (r.load t).result
    let features := objects.map Feature.ofObject
    let hasNull := ∃ object ∈ objects, object.get? "properties" = some .null
    ((∃ url detail, result = .error (.malformedResponse url detail)) ↔ hasNull) ∧
    (hasNull → result =
      .error (.malformedResponse r.url.toString "invalid type: null, expected a map")) ∧
    (¬ hasNull →
      (result = .ok () ∧ (∀ f ∈ features, f.cutoff? ≠ none) ∨
        ∃ e, result = .error (.feature e) ∧ FeatureIndex.IsFirstError features e) ∧
      ∀ before object after, objects = before ++ object :: after →
        (∀ other ∈ before, (Feature.ofObject other).cutoff? ≠ none) →
        object.get? "properties" = none →
        result = .error (.feature (.missingTime before.length))) := by
  intro r result features hasNull
  have hmalformed (hnull : hasNull) : result =
      .error (.malformedResponse r.url.toString "invalid type: null, expected a map") :=
    (Request.load_of_fetches_error hq (.malformed hanswer (hbody.decode_eq_error hnull))).1
  have hdelivers (hnone : ¬ hasNull) : t.Delivers r.url ⟨features⟩ :=
    ⟨body, hanswer, hbody.decode_eq_ok fun object hobject hnull =>
      hnone ⟨object, hobject, hnull⟩⟩
  refine ⟨⟨?_, fun hnull => ⟨_, _, hmalformed hnull⟩⟩, hmalformed, fun hnone =>
    ⟨Request.load_of_delivers hq (hdelivers hnone), ?_⟩⟩
  · rintro ⟨url, detail, hresult⟩
    by_contra hnone
    rcases Request.load_of_delivers hq (hdelivers hnone) with ⟨hok, -⟩ | ⟨e, hfeature, -⟩
    · cases hok.symm.trans hresult
    · cases hfeature.symm.trans hresult
  · intro before object after hobjects hbefore habsent
    refine Request.load_of_isFirstError hq (hdelivers hnone) ⟨before.map Feature.ofObject,
      Feature.ofObject object, after.map Feature.ofObject, ?_, List.forall_mem_map.mpr hbefore, ?_⟩
    · show objects.map Feature.ofObject = _
      rw [hobjects, List.map_append, List.map_cons]
    · rw [List.length_map]
      exact Feature.cutoffAt_ofObject_of_absent habsent _

/-- The object with one member. -/
def single (key : String) (v : Value) : SortedMap String Value := .ofList [(key, v)]

theorem canonical_single {key : String} {v : Value} (h : v.Canonical) :
    (Value.ofMap (single key v)).Canonical := by
  refine .object fun entry hentry => ?_
  rw [List.mem_singleton.mp (SortedMap.mem_of_mem_ofList hentry)]
  exact h

/-- An object of one member has that member alone. -/
theorem get?_single (key other : String) (v : Value) :
    (single key v).get? other = if other = key then some v else none := by
  have hwritten : single key v = SortedMap.empty.insert key v := rfl
  rw [hwritten, SortedMap.get?_insert, SortedMap.get?_empty]
  simp only [Std.LawfulEqOrd.compare_eq_iff_eq]

/-- An object that has only properties is admitted as a feature. -/
theorem admits_single_properties {v : Value} (h : v = .null ∨ ∃ p, v = .ofMap p) :
    Feature.Admits (single "properties" v) where
  geometry other hother := by
    rw [get?_single, if_neg (by decide)] at hother
    cases hother
  properties other hother := by
    rw [get?_single, if_pos rfl] at hother
    cases hother
    exact h

/-- The document that lists objects as its features. -/
def listing (objects : List (SortedMap String Value)) : Value :=
  .ofMap (single "features" (.array (objects.map .ofMap)))

theorem lists_listing {objects : List (SortedMap String Value)}
    (h : ∀ object ∈ objects, (Value.ofMap object).Canonical ∧ Feature.Admits object) :
    Response.Lists (listing objects) objects where
  canonical := canonical_single (.array (List.forall_mem_map.mpr fun object hobject =>
    (h object hobject).1))
  features := (get?_single _ _ _).trans (if_pos rfl)
  admits object hobject := (h object hobject).2

/-- A feature with a time. -/
def timely : SortedMap String Value :=
  single "properties" (.ofMap (single "Time" (.ofUInt32 300)))

/-- A feature with null for its area and nothing else. -/
def placeless : SortedMap String Value := single "geometry" .null

/-- Between two features with times the one without properties is reported. -/
theorem malformed_iff_null_properties_placeless :
    let objects := [timely, placeless, timely]
    let t := Stub.ofBody 0 (listing objects)
    awaited.request.state = .queued ∧ t.answer awaited.request.url = .ok (listing objects) ∧
      Response.Lists (listing objects) objects ∧
      (awaited.request.load t).result = .error (.feature (.missingTime 1)) := by
  intro objects t
  have htimely : (Value.ofMap timely).Canonical ∧ Feature.Admits timely :=
    ⟨canonical_single (canonical_single (.number _)), admits_single_properties (Or.inr ⟨_, rfl⟩)⟩
  have hplaceless : (Value.ofMap placeless).Canonical ∧ Feature.Admits placeless := by
    refine ⟨canonical_single .null, ?_, nofun⟩
    rintro _ ⟨⟩
    exact Or.inl rfl
  have hlists : Response.Lists (listing objects) objects := by
    refine lists_listing ?_
    simp [objects, htimely, hplaceless]
  have hnone : ¬ ∃ object ∈ objects, object.get? "properties" = some .null := by
    rintro ⟨object, hobject, hnull⟩
    simp only [objects, List.mem_cons, List.not_mem_nil, or_false] at hobject
    rcases hobject with rfl | rfl | rfl
    · cases hnull
    · cases hnull
    · cases hnull
  obtain ⟨-, -, hload⟩ := malformed_iff_null_properties awaited t rfl rfl hlists
  refine ⟨rfl, rfl, hlists, (hload hnone).2 [timely] placeless [timely] rfl ?_ rfl⟩
  have hcutoff : (Feature.ofObject timely).cutoff? = some 300 := by decide +kernel
  simp [hcutoff]

/-- One feature with null properties makes its response malformed, where without them it is reported
for its time. -/
theorem null_properties_malformed :
    let nullified := single "properties" .null
    let result body := (awaited.request.load (Stub.ofBody 0 body)).result
    awaited.request.state = .queued ∧ Response.Lists (listing [nullified]) [nullified] ∧
      result (listing [nullified]) = .error (.malformedResponse awaited.request.url.toString
        "invalid type: null, expected a map") ∧
      result (listing [.empty]) = .error (.feature (.missingTime 0)) := by
  intro nullified result
  refine ⟨rfl, lists_listing (List.forall_mem_singleton.mpr ?_), ?_, ?_⟩
  · exact ⟨canonical_single .null, admits_single_properties (Or.inl rfl)⟩
  · decide +kernel
  · decide +kernel

end History

end Isochrone
