import Isochrone.Proofs.Http.Fetching
import Isochrone.Proofs.Request.Driving

/-!
# Statuses of responses

A response of the 400s or 500s makes a load fail with its status, whatever its body holds. No
other response does: it is read like one of the status 200, and indexed if its body can be.
Only the responses of the statuses 101 and 304 count as empty.
-/

namespace Isochrone.Http

variable {ι : Type}

namespace Client

variable {client : Client} {service : Service} {url : RequestUrl}

/-- A load of `r` fails with a status: the fetch gives an error with this status and the
absolute URL, the request records it, and nothing is indexed. -/
def FailsWith (client : Client) (service : Service) (status : Nat) (r : Request ι) : Prop :=
  ∃ detail,
    let cause : TransportError := .http (client.absoluteUrl r.url) status detail
    let loaded := r.load (client.transport service)
    (client.fetch service r.url).result = .error cause ∧
    loaded.result = .error (.transport cause) ∧
    loaded.request.state = .failed (.transport cause) ∧
    loaded.request.features = .empty

/-- A load that succeeds does not fail with a status. -/
theorem not_failsWith_of_loaded {status : Nat} {r : Request ι}
    (h : (r.load (client.transport service)).request.state = .loaded) :
    ¬ client.FailsWith service status r := by
  rintro ⟨detail, -, -, hfailed, -⟩
  rw [h] at hfailed
  cases hfailed

/-- Only a queued request fails with an error of its transport. -/
theorem queued_of_load_eq_transport {t : Transport} {r : Request ι} {cause : TransportError}
    (h : (r.load t).result = .error (.transport cause)) : r.state = .queued := by
  by_contra hq
  by_cases hi : r.state = .idle
  · rw [Request.load_of_idle t hi] at h
    cases h
  · rw [Request.load_of_refused t hi hq] at h
    cases h

/-- A queued request without features fails with the error of its fetch. -/
theorem load_of_fetch_error {r : Request ι} {cause : TransportError}
    (hq : r.state = .queued) (h : (client.fetch service r.url).result = .error cause) :
    (r.load (client.transport service)).result = .error (.transport cause) ∧
      (r.load (client.transport service)).request =
        { r with state := .failed (.transport cause) } := by
  have hfetch : (client.transport service).fetchFeatures r.url =
      ([], .error (.transport cause)) := by
    simp only [Transport.fetchFeatures, transport, h]
  rw [Request.load_of_failed hq hfetch]
  exact ⟨rfl, rfl⟩

/-- A response makes a fetch fail with its status just where the service is asked at all and the
status is one of the 400s or 500s. -/
theorem result_eq_http_iff_of_responds {response : Response} :
    (∃ detail, (client.fetch (.responds response) url).result =
        .error (.http (client.absoluteUrl url) response.status.code detail)) ↔
      (client.fetch (.responds response) url).sent ≠ [] ∧
        400 ≤ response.status.code ∧ response.status.code < 600 := by
  rw [result_eq_http_iff, sent_ne_nil_iff]
  constructor
  · rintro ⟨hsends, found, hresponse, -, hrange⟩
    exact ⟨⟨fun lapse => nofun, hsends⟩, hrange⟩
  · rintro ⟨⟨-, hsends⟩, hrange⟩
    exact ⟨hsends, response, rfl, rfl, hrange⟩

/-- Responses that are not refused are read alike if the same is received of their bodies. -/
theorem result_congr {response other : Response} (hread : response.status.isRefused = false)
    (hread' : other.status.isRefused = false) (hbody : response.received = other.received) :
    (client.fetch (.responds response) url).result =
      (client.fetch (.responds other) url).result := by
  by_cases hsends : client.Sends url
  · obtain ⟨request, h⟩ := hsends
    rw [fetch_of_not_refused h hread, fetch_of_not_refused h hread']
    simp only [Answer.json, hbody]
  · obtain ⟨detail, hfetch⟩ := fetch_of_not_sends hsends
    rw [hfetch, hfetch]

/-- A complete response makes the load of a request fail with its status exactly if the request
is queued, the service is asked at all and the status is one of the 400s or 500s; the body does
not matter then. Behind any other status beyond the 200s the body is read and indexed as it is
behind the status 200, and only that of the statuses 101 and 304 is taken as empty. -/
theorem load_fails_with_status_iff (client : Client) (h : History ι) (status : Status)
    (reason : Reason) (bytes : ByteArray) :
    (client.FailsWith (.responds ⟨status, reason, .whole bytes⟩) status.code h.request ↔
      h.request.state = .queued ∧
        (client.fetch (.responds ⟨status, reason, .whole bytes⟩) h.request.url).sent ≠ [] ∧
        400 ≤ status.code ∧ status.code < 600) ∧
    (¬ (200 ≤ status.code ∧ status.code < 300) → ¬ (400 ≤ status.code ∧ status.code < 600) →
      h.request.load (client.transport (.responds ⟨status, reason, .whole bytes⟩)) =
        h.request.load (client.transport (.responds ⟨.ok, reason,
          .whole (if status.code = 101 ∨ status.code = 304 then .empty else bytes)⟩))) := by
  constructor
  · constructor
    · rintro ⟨detail, hfetch, hresult, -, -⟩
      exact ⟨queued_of_load_eq_transport hresult,
        result_eq_http_iff_of_responds.mp ⟨detail, hfetch⟩⟩
    · rintro ⟨hq, hreached⟩
      obtain ⟨detail, hfetch⟩ := result_eq_http_iff_of_responds.mpr hreached
      obtain ⟨hresult, hrequest⟩ := load_of_fetch_error hq hfetch
      refine ⟨detail, hfetch, hresult, congrArg Request.state hrequest, ?_⟩
      rw [hrequest]
      exact h.sound.unloaded (by simp [hq])
  · intro hbeyond hother
    have hbody : Response.received ⟨status, reason, .whole bytes⟩ = Response.received
        ⟨.ok, reason, .whole (if status.code = 101 ∨ status.code = 304 then .empty else bytes)⟩ := by
      have h204 : status.code ≠ 204 := by omega
      by_cases hempty : status.code = 101 ∨ status.code = 304
      · simp [Response.received, Status.isBodiless, hempty, h204, Status.ok]
      · simp [Response.received, Status.isBodiless, hempty, h204, Status.ok]
    have hok : Status.ok.isRefused = false := by decide
    refine Request.load_congr rfl ?_
    simp only [transport]
    exact result_congr (Status.isRefused_eq_false_iff.mpr hother) hok hbody

/-- The document of one feature. -/
def oneFeature : String := "\x7b\"features\":[\x7b\"properties\":\x7b\"Time\":300\x7d\x7d]\x7d"

/-- A service that answers with the status 300 and a document. -/
def multipleChoices : Service :=
  .responds ⟨⟨300, by decide⟩, ⟨"Multiple Choices", by decide⟩, .whole oneFeature.toUTF8⟩

/-- A document that comes with the status 300 is indexed. -/
theorem indexes_multiple_choices :
    let client : Client := ⟨.ofBase "http://h", by decide⟩
    let r : Request Unit := .new .empty ⟨[300]⟩ .default
    (client.fetch multipleChoices r.url).sent ≠ [] ∧
      ¬ client.FailsWith multipleChoices 300 r ∧
      (r.load (client.transport multipleChoices)).request.state = .loaded ∧
      (r.load (client.transport multipleChoices)).request.features.cutoffs = [300] := by
  intro client r
  have hloaded : (r.load (client.transport multipleChoices)).request.state = .loaded := by
    decide +kernel
  exact ⟨by decide +kernel, not_failsWith_of_loaded hloaded, hloaded, by decide +kernel⟩

end Client

end Isochrone.Http
