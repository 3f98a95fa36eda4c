import Isochrone.Proofs.Request.Delivery
import Isochrone.Proofs.Request.Representation
import Isochrone.Stub

/-!
# What a load reports

The one fetch of a request passes three stages: the transport answers with a document, the
document is read as a response, and the response is indexed. A load reports the stage that fails
first, with that stage's own error, and records the same error; nothing else of the request
changes, however far the fetch has come. It succeeds just if all three stages do.
-/

namespace Isochrone

open Json (Value)

variable {ι : Type}

namespace Transport

/-- Whether the document that a transport answers with is read as a response. -/
def Delivers (t : Transport) (url : RequestUrl) (response : Response) : Prop :=
  ∃ body, t.answer url = .ok body ∧ Reading.ofValue Response.decode body = .ok response

/-- What a fetch of features comes to, by the stage that decides it. -/
inductive Fetches (t : Transport) (url : RequestUrl) : Except LoadError FeatureIndex → Prop
  /-- The transport answers with an error. -/
  | refused {e} (hanswer : t.answer url = .error e) : Fetches t url (.error (.transport e))
  /-- The document is no response. -/
  | malformed {body problem} (hanswer : t.answer url = .ok body)
      (hread : Reading.ofValue Response.decode body = .error problem) :
      Fetches t url (.error (.malformedResponse url.toString problem.message))
  /-- A feature of the response cannot be indexed. -/
  | unusable {response e} (hresponse : t.Delivers url response)
      (hindex : (FeatureIndex.ofResponse response).outcome = .error e) :
      Fetches t url (.error (.feature e))
  | indexed {response index} (hresponse : t.Delivers url response)
      (hindex : (FeatureIndex.ofResponse response).outcome = .ok index) :
      Fetches t url (.ok index)

variable {t : Transport} {url : RequestUrl}

/-- Every fetch is decided by one of its stages, and by no two of them. -/
theorem fetches_iff {outcome : Except LoadError FeatureIndex} :
    t.Fetches url outcome ↔ (t.fetchFeatures url).2 = outcome := by
  constructor
  · intro h
    cases h with
    | refused hanswer => simp only [fetchFeatures, hanswer]
    | malformed hanswer hread => simp only [fetchFeatures, hanswer, hread]
    | unusable hresponse hindex =>
      obtain ⟨body, hanswer, hread⟩ := hresponse
      simp only [fetchFeatures, hanswer, hread, hindex, Except.mapError]
    | indexed hresponse hindex =>
      obtain ⟨body, hanswer, hread⟩ := hresponse
      simp only [fetchFeatures, hanswer, hread, hindex, Except.mapError]
  · rintro rfl
    rw [fetchFeatures]
    cases hanswer : t.answer url with
    | error e => exact .refused hanswer
    | ok body =>
      cases hread : Reading.ofValue Response.decode body with
      | error problem =>
        simp only [hread]
        exact .malformed hanswer hread
      | ok response =>
        cases hindex : (FeatureIndex.ofResponse response).outcome with
        | error e =>
          simp only [hread, hindex]
          exact .unusable ⟨body, hanswer, hread⟩ hindex
        | ok index =>
          simp only [hread, hindex]
          exact .indexed ⟨body, hanswer, hread⟩ hindex

/-- A fetch ends with the error of the transport just if the transport answers with it. -/
theorem fetches_transport_iff {e : TransportError} :
    t.Fetches url (.error (.transport e)) ↔ t.answer url = .error e := by
  constructor
  · intro h
    cases h with
    | refused hanswer => exact hanswer
  · exact .refused

/-- A fetch ends at a malformed response just if a document is there that is no response. -/
theorem fetches_malformedResponse_iff {named detail : String} :
    t.Fetches url (.error (.malformedResponse named detail)) ↔
      named = url.toString ∧ ∃ body problem, t.answer url = .ok body ∧
        Reading.ofValue Response.decode body = .error problem ∧ detail = problem.message := by
  constructor
  · intro h
    cases h with
    | malformed hanswer hread => exact ⟨rfl, _, _, hanswer, hread, rfl⟩
  · rintro ⟨rfl, body, problem, hanswer, hread, rfl⟩
    exact .malformed hanswer hread

/-- A fetch ends with the error of a feature just if a response is there that has it. -/
theorem fetches_feature_iff {e : FeatureError} :
    t.Fetches url (.error (.feature e)) ↔
      ∃ response, t.Delivers url response ∧
        (FeatureIndex.ofResponse response).outcome = .error e := by
  constructor
  · intro h
    cases h with
    | unusable hresponse hindex => exact ⟨_, hresponse, hindex⟩
  · rintro ⟨response, hresponse, hindex⟩
    exact .unusable hresponse hindex

/-- A fetch ends with an index just if a response is there that has it. -/
theorem fetches_ok_iff {index : FeatureIndex} :
    t.Fetches url (.ok index) ↔
      ∃ response, t.Delivers url response ∧
        (FeatureIndex.ofResponse response).outcome = .ok index := by
  constructor
  · intro h
    cases h with
    | indexed hresponse hindex => exact ⟨_, hresponse, hindex⟩
  · rintro ⟨response, hresponse, hindex⟩
    exact .indexed hresponse hindex

/-- A fetch that fails does so with the error of one of the three stages. -/
theorem Fetches.stage {cause : LoadError} (h : t.Fetches url (.error cause)) :
    (∃ e, cause = .transport e) ∨ (∃ detail, cause = .malformedResponse url.toString detail) ∨
      ∃ e, cause = .feature e := by
  cases h with
  | refused hanswer => exact Or.inl ⟨_, rfl⟩
  | malformed hanswer hread => exact Or.inr (Or.inl ⟨_, rfl⟩)
  | unusable hresponse hindex => exact Or.inr (Or.inr ⟨_, rfl⟩)

end Transport

namespace Request

variable {t : Transport} {r : Request ι}

/-- A load that fails records its error and changes nothing else, and calls no listener. -/
theorem load_of_fetches_error (hq : r.state = .queued) {cause : LoadError}
    (h : t.Fetches r.url (.error cause)) :
    (r.load t).result = .error cause ∧ (r.load t).request = { r with state := .failed cause } ∧
      deliveriesOf (r.load t).events = [] := by
  have hfetch : t.fetchFeatures r.url = ((t.fetchFeatures r.url).1, .error cause) :=
    Prod.ext rfl (Transport.fetches_iff.mp h)
  rw [load_of_failed hq hfetch]
  refine ⟨rfl, rfl, ?_⟩
  rw [deliveriesOf_append, deliveriesOf_append, deliveriesOf_issueEvents, deliveriesOf_answerEvents]
  rfl

/-- A load that succeeds takes over the index that was fetched. -/
theorem load_of_fetches_ok (hq : r.state = .queued) {index : FeatureIndex}
    (h : t.Fetches r.url (.ok index)) :
    (r.load t).result = .ok () ∧
      (r.load t).request = { r with features := index, state := .loaded, listeners := [] } := by
  have hfetch : t.fetchFeatures r.url = ((t.fetchFeatures r.url).1, .ok index) :=
    Prod.ext rfl (Transport.fetches_iff.mp h)
  rw [load_of_indexed hq hfetch]
  exact ⟨rfl, rfl⟩

/-- The result of a load is that of its fetch. -/
theorem load_result (hq : r.state = .queued) :
    (r.load t).result = (t.fetchFeatures r.url).2.map fun _ => () := by
  cases houtcome : (t.fetchFeatures r.url).2 with
  | error cause => exact (load_of_fetches_error hq (Transport.fetches_iff.mpr houtcome)).1
  | ok index => exact (load_of_fetches_ok hq (Transport.fetches_iff.mpr houtcome)).1

theorem load_result_eq_error_iff (hq : r.state = .queued) {cause : LoadError} :
    (r.load t).result = .error cause ↔ t.Fetches r.url (.error cause) := by
  rw [load_result hq, Transport.fetches_iff]
  cases (t.fetchFeatures r.url).2 <;> simp [Except.map]

theorem load_result_eq_ok_iff (hq : r.state = .queued) :
    (r.load t).result = .ok () ↔ ∃ index, t.Fetches r.url (.ok index) := by
  simp only [load_result hq, Transport.fetches_iff]
  cases (t.fetchFeatures r.url).2 <;> simp [Except.map]

end Request

namespace History

/-- A load of a queued request fails with the transport's error just if the transport answers with
it, as malformed under the URL of the request just if the document is no response, and with a
feature's error just if the response cannot be indexed for it; there is no other failure. It
succeeds just if the response is indexed, and the request is then loaded with that index. A failure
is recorded as it is returned; it leaves the request without features, as it was in all else, and
calls no listener. -/
theorem load_reports_stage (h : History ι) (t : Transport) (hq : h.request.state = .queued) :
    let r := h.request
    let done := r.load t
    (∀ e, done.result = .error (.transport e) ↔ t.answer r.url = .error e) ∧
    (∀ url detail, done.result = .error (.malformedResponse url detail) ↔
      url = r.url.toString ∧ ∃ body problem, t.answer r.url = .ok body ∧
        Reading.ofValue Response.decode body = .error problem ∧ detail = problem.message) ∧
    (∀ e, done.result = .error (.feature e) ↔ ∃ response, t.Delivers r.url response ∧
      (FeatureIndex.ofResponse response).outcome = .error e) ∧
    (done.result = .ok () ↔ ∃ index response, t.Delivers r.url response ∧
      (FeatureIndex.ofResponse response).outcome = .ok index) ∧
    (∀ index response, t.Delivers r.url response →
      (FeatureIndex.ofResponse response).outcome = .ok index →
      done.request.state = .loaded ∧ done.request.features = index) ∧
    ∀ cause, done.result = .error cause →
      ((∃ e, cause = .transport e) ∨
        (∃ detail, cause = .malformedResponse r.url.toString detail) ∨ ∃ e, cause = .feature e) ∧
      done.request = { r with state := .failed cause } ∧ done.request.features = .empty ∧
      deliveriesOf done.events = [] := by
  intro r done
  have herror : ∀ cause, done.result = .error cause ↔ t.Fetches r.url (.error cause) :=
    fun _ => Request.load_result_eq_error_iff hq
  refine ⟨?_, ?_, ?_, ?_, ?_, ?_⟩
  · intro e
    rw [herror, Transport.fetches_transport_iff]
  · intro url detail
    rw [herror, Transport.fetches_malformedResponse_iff]
  · intro e
    rw [herror, Transport.fetches_feature_iff]
  · have hok : done.result = .ok () ↔ ∃ index, t.Fetches r.url (.ok index) :=
      Request.load_result_eq_ok_iff hq
    rw [hok]
    exact exists_congr fun index => Transport.fetches_ok_iff
  · intro index response hresponse hindex
    have hloaded := (Request.load_of_fetches_ok hq (.indexed hresponse hindex)).2
    exact ⟨congrArg Request.state hloaded, congrArg Request.features hloaded⟩
  · intro cause hcause
    have hfetch := (herror cause).mp hcause
    obtain ⟨-, hfailed, hsilent⟩ := Request.load_of_fetches_error hq hfetch
    refine ⟨hfetch.stage, hfailed, ?_, hsilent⟩
    rw [show done.request = _ from hfailed]
    exact h.sound.unloaded (by simp [hq])

/-- A new request with a listener. -/
def awaited : History String := ⟨.new, .empty, ⟨[300]⟩, .default, [.onLoad "map"]⟩

/-- A feature with a time, and one whose time stands under another name. -/
def halfTimed : List Value := [Stub.feature "Time" 300, Stub.feature "seconds" 600]

/-- A failure at the last feature leaves no trace of the features before it. -/
theorem load_reports_stage_halfTimed :
    let done := awaited.request.load (Stub.ofFeatures 2 halfTimed)
    awaited.request.state = .queued ∧ done.result = .error (.feature (.missingTime 1)) ∧
      done.request.state = .failed (.feature (.missingTime 1)) ∧
      done.request.features = .empty ∧ done.request.listeners = ["map"] ∧
      deliveriesOf done.events = [] := by
  intro done
  have hq : awaited.request.state = .queued := rfl
  have hresult : done.result = .error (.feature (.missingTime 1)) := by decide +kernel
  obtain ⟨-, -, -, -, -, hfailure⟩ := load_reports_stage awaited (Stub.ofFeatures 2 halfTimed) hq
  obtain ⟨-, hfailed, hempty, hsilent⟩ := hfailure _ hresult
  exact ⟨hq, hresult, congrArg Request.state hfailed, hempty, congrArg Request.listeners hfailed,
    hsilent⟩

end History

end Isochrone
