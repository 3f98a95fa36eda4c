import Isochrone.Http.Client
import Isochrone.Proofs.Form
import Isochrone.Proofs.Json.Canonical

/-!
# How a fetch ends

A fetch of a URL that no request can be made for sends nothing. Any other has one request to send,
and an equation for each stage that can end it: what has been sent by then, and the failure of the
stage as the client classifies it. From there on a fetch is opened by these equations alone.
-/

namespace Isochrone

open Json (Value)

/-- Bytes are read as the value of the text that they are UTF-8 of. -/
theorem Reading.valueOfBytes?_eq_some_iff {bytes : ByteArray} {v : Value} :
    valueOfBytes? bytes = some v ↔
      ∃ text : String, bytes = text.toUTF8 ∧ ofText value text = .ok v := by
  rw [valueOfBytes?, Option.bind_eq_some_iff]
  constructor
  · rintro ⟨text, hbytes, hvalue⟩
    exact ⟨text, Form.eq_toByteArray_of_fromUTF8? hbytes, toOption_eq_some.mp hvalue⟩
  · rintro ⟨text, rfl, hvalue⟩
    exact ⟨text, Form.fromUTF8?_toByteArray text, toOption_eq_some.mpr hvalue⟩

namespace Http

/-- The statuses that are refused are the 400s and 500s. -/
theorem Status.isRefused_iff {status : Status} :
    status.isRefused = true ↔ 400 ≤ status.code ∧ status.code < 600 := by
  simp only [isRefused, isClientError, isServerError, Bool.or_eq_true, Bool.and_eq_true,
    decide_eq_true_eq]
  omega

theorem Status.isRefused_eq_false_iff {status : Status} :
    status.isRefused = false ↔ ¬ (400 ≤ status.code ∧ status.code < 600) := by
  rw [← Bool.not_eq_true, isRefused_iff]

/-- A request can be sent to a text just if it is an address, and its scheme and host are such that
there is somebody to send to. -/
theorem Address.sendable_eq_ok_iff {target : String} {address : Address} :
    sendable target = .ok address ↔
      parse? target = some address ∧ address.anonymous.isSendable = true := by
  rw [sendable]
  cases parse? target with
  | none => simp
  | some found =>
    by_cases hsendable : found.anonymous.isSendable = true
    · simp only [hsendable, if_true, Except.ok.injEq, Option.some.injEq]
      exact ⟨fun h => ⟨h, h ▸ hsendable⟩, And.left⟩
    · simp only [hsendable, Option.some.injEq]
      constructor
      · intro h
        cases h
      · rintro ⟨rfl, h⟩
        exact absurd h hsendable

/-- A text that no request can be sent to fails without a timeout, a status or a body. -/
theorem Address.sendable_eq_error {target : String} {failure : Failure}
    (h : sendable target = .error failure) :
    failure.isTimeout = false ∧ failure.status? = none ∧ failure.isDecode = false := by
  rw [sendable] at h
  split at h
  · cases h
    exact ⟨rfl, rfl, rfl⟩
  · split at h
    · cases h
    · cases h
      exact ⟨rfl, rfl, rfl⟩

namespace Service

/-- Whether there is a connection to send a request over. -/
def Connects (service : Service) : Prop := ∀ lapse, service ≠ .unconnected lapse

/-- Whether no response comes, for the reason given: the connection is broken or the time limit
runs out. -/
def Lapses (service : Service) (lapse : Lapse) : Prop :=
  service = .unconnected lapse ∨ service = .unanswered lapse

/-- Whether a service responds with one of the statuses that are refused. -/
def Refuses (service : Service) (status : ℕ) : Prop :=
  ∃ response, service = .responds response ∧ response.status.code = status ∧
    400 ≤ status ∧ status < 600

/-- Whether a service offers a body to be read: it responds with a status that is not refused, and
this is what arrives of the body. -/
def Offers (service : Service) (body : Body) : Prop :=
  ∃ response, service = .responds response ∧
    ¬ (400 ≤ response.status.code ∧ response.status.code < 600) ∧ response.received = body

/-- A fetch that leaves the client gets no response, or its status or its body decides. -/
theorem stages (service : Service) : (∃ lapse, service.Lapses lapse) ∨
    (∃ status, service.Refuses status) ∨ ∃ body, service.Offers body := by
  cases service with
  | unconnected lapse => exact Or.inl ⟨lapse, Or.inl rfl⟩
  | unanswered lapse => exact Or.inl ⟨lapse, Or.inr rfl⟩
  | responds response =>
    by_cases hrange : 400 ≤ response.status.code ∧ response.status.code < 600
    · exact Or.inr (Or.inl ⟨_, response, rfl, rfl, hrange⟩)
    · exact Or.inr (Or.inr ⟨_, response, rfl, hrange, rfl⟩)

end Service

namespace Client

variable {client : Client} {service : Service} {url : RequestUrl} {request : Sent}

/-- The request that a fetch of a URL has to send: a GET at the address of the absolute URL, which
asks for JSON and names the client. -/
structure Requests (client : Client) (url : RequestUrl) (request : Sent) : Prop where
  method_eq : request.method = "GET"
  address_eq : Address.parse? (client.absoluteUrl url) = some request.address
  sendable : request.address.anonymous.isSendable = true
  accept_eq : request.accept = "application/json"
  userAgent_eq : request.userAgent = client.config.userAgent

/-- A URL has one request at most. -/
theorem Requests.unique {other : Sent} (h : client.Requests url request)
    (hother : client.Requests url other) : request = other := by
  have haddress : request.address = other.address :=
    Option.some.inj (h.address_eq.symm.trans hother.address_eq)
  cases request
  cases other
  simp only [Sent.mk.injEq]
  exact ⟨h.method_eq.trans hother.method_eq.symm, haddress,
    h.accept_eq.trans hother.accept_eq.symm, h.userAgent_eq.trans hother.userAgent_eq.symm⟩

/-- Whether a request can be made for a URL. -/
def Sends (client : Client) (url : RequestUrl) : Prop := ∃ request, client.Requests url request

/-- A request can be made just where the absolute URL can be sent to. -/
theorem sends_iff : client.Sends url ↔ ∃ address, Address.sendable (client.absoluteUrl url) =
    .ok address := by
  constructor
  · rintro ⟨request, h⟩
    exact ⟨request.address, Address.sendable_eq_ok_iff.mpr ⟨h.address_eq, h.sendable⟩⟩
  · rintro ⟨address, h⟩
    obtain ⟨hparse, hsendable⟩ := Address.sendable_eq_ok_iff.mp h
    exact ⟨⟨"GET", address, mediaType, client.config.userAgent⟩, rfl, hparse, hsendable, rfl, rfl⟩

/-- The one GET of a fetch is the request of its URL. -/
theorem get_of_requests (h : client.Requests url request) (service : Service) :
    service.get (client.absoluteUrl url) mediaType client.config.userAgent =
      service.take request := by
  have hsendable : Address.sendable (client.absoluteUrl url) = .ok request.address :=
    Address.sendable_eq_ok_iff.mpr ⟨h.address_eq, h.sendable⟩
  have hrequest : request = ⟨"GET", request.address, mediaType, client.config.userAgent⟩ :=
    h.unique ⟨rfl, h.address_eq, h.sendable, rfl, rfl⟩
  simp only [Service.get, hsendable]
  rw [← hrequest]

/-- Where no request can be made, a fetch sends nothing and fails as on the network. -/
theorem fetch_of_not_sends (h : ¬ client.Sends url) : ∃ detail, ∀ service,
    client.fetch service url = ⟨[], .error (.network (client.absoluteUrl url) detail)⟩ := by
  cases hsendable : Address.sendable (client.absoluteUrl url) with
  | ok address => exact absurd (sends_iff.mpr ⟨address, hsendable⟩) h
  | error failure =>
    obtain ⟨htimeout, hstatus, hdecode⟩ := Address.sendable_eq_error hsendable
    refine ⟨failure.message, fun service => ?_⟩
    have hclassify : client.classify (client.absoluteUrl url) failure =
        .network (client.absoluteUrl url) failure.message := by
      simp only [classify, htimeout, hstatus, hdecode]
    simp only [fetch, Service.get, hsendable]
    rw [← hclassify]
    rfl

/-- Without a connection nothing is sent. -/
theorem fetch_unconnected (h : client.Requests url request) (lapse : Lapse) :
    client.fetch (.unconnected lapse) url =
      ⟨[], .error (client.classify (client.absoluteUrl url) (.sending request.address lapse))⟩ := by
  rw [fetch, get_of_requests h]
  rfl

/-- Without a response the request is not sent again. -/
theorem fetch_unanswered (h : client.Requests url request) (lapse : Lapse) :
    client.fetch (.unanswered lapse) url =
      ⟨[request],
        .error (client.classify (client.absoluteUrl url) (.sending request.address lapse))⟩ := by
  rw [fetch, get_of_requests h]
  rfl

/-- After a response its status decides, and then its body; a failure of either is classified. -/
theorem fetch_responds (h : client.Requests url request) (response : Response) :
    client.fetch (.responds response) url =
      ⟨[request], ((Answer.errorForStatus ⟨request.address, response⟩).bind Answer.json).mapError
        (client.classify (client.absoluteUrl url))⟩ := by
  rw [fetch, get_of_requests h]
  simp only [Service.take, Exchange.mapError, Except.mapError, bind, Exchange.bind]
  cases Answer.errorForStatus ⟨request.address, response⟩ with
  | error failure => rfl
  | ok answer => rfl

/-- A response that is refused ends the fetch before its body is looked at. -/
theorem fetch_of_refused (h : client.Requests url request) {response : Response}
    (hrefused : response.status.isRefused = true) :
    client.fetch (.responds response) url =
      ⟨[request],
        .error (client.classify (client.absoluteUrl url) (.refused request.address response))⟩ := by
  have hstage : Answer.errorForStatus ⟨request.address, response⟩ =
      .error (.refused request.address response) := if_pos hrefused
  rw [fetch_responds h, hstage]
  rfl

/-- The body of any other response decides. -/
theorem fetch_of_not_refused (h : client.Requests url request) {response : Response}
    (hread : response.status.isRefused = false) :
    client.fetch (.responds response) url =
      ⟨[request], (Answer.json ⟨request.address, response⟩).mapError
        (client.classify (client.absoluteUrl url))⟩ := by
  have hstage : Answer.errorForStatus ⟨request.address, response⟩ =
      .ok ⟨request.address, response⟩ := if_neg (by simp [hread])
  rw [fetch_responds h, hstage]
  rfl

/-- Over a connection a fetch sends the request of its URL once. -/
theorem sent_of_connects (h : client.Requests url request) (hconnects : service.Connects) :
    (client.fetch service url).sent = [request] := by
  cases service with
  | unconnected lapse => exact absurd rfl (hconnects lapse)
  | unanswered lapse => rw [fetch_unanswered h]
  | responds response => rw [fetch_responds h]

/-- What a fetch sends is the request of its URL, if there is one and a connection to send it
over. -/
theorem mem_sent_iff : request ∈ (client.fetch service url).sent ↔
    service.Connects ∧ client.Requests url request := by
  constructor
  · intro hmem
    by_cases hsends : client.Sends url
    · obtain ⟨made, hmade⟩ := hsends
      have hconnects : service.Connects := by
        rintro lapse rfl
        rw [fetch_unconnected hmade] at hmem
        cases hmem
      rw [sent_of_connects hmade hconnects, List.mem_singleton] at hmem
      exact ⟨hconnects, hmem ▸ hmade⟩
    · obtain ⟨detail, hfetch⟩ := fetch_of_not_sends hsends
      rw [hfetch] at hmem
      cases hmem
  · rintro ⟨hconnects, h⟩
    rw [sent_of_connects h hconnects]
    exact List.mem_singleton_self request

/-- A fetch sends something just if a request can be made and there is a connection. -/
theorem sent_ne_nil_iff : (client.fetch service url).sent ≠ [] ↔
    service.Connects ∧ client.Sends url := by
  constructor
  · intro hne
    obtain ⟨request, hmem⟩ := List.exists_mem_of_ne_nil _ hne
    obtain ⟨hconnects, h⟩ := mem_sent_iff.mp hmem
    exact ⟨hconnects, request, h⟩
  · rintro ⟨hconnects, request, h⟩
    exact List.ne_nil_of_mem (mem_sent_iff.mpr ⟨hconnects, h⟩)

/-- A fetch without a connection or a response fails on the network or as a timeout. -/
theorem result_of_lapses {request : Sent} {lapse : Lapse} (h : client.Requests url request)
    (hlapses : service.Lapses lapse) : (client.fetch service url).result =
      .error (client.classify (client.absoluteUrl url) (.sending request.address lapse)) := by
  rcases hlapses with rfl | rfl
  · rw [fetch_unconnected h]
  · rw [fetch_unanswered h]

/-- A fetch gives what the client makes of the body that it is offered. -/
theorem result_of_offers {request : Sent} {body : Body} (h : client.Requests url request)
    (hoffers : service.Offers body) :
    ∃ response : Response, response.received = body ∧ (client.fetch service url).result =
      (Answer.json ⟨request.address, response⟩).mapError
        (client.classify (client.absoluteUrl url)) := by
  obtain ⟨response, rfl, hread, hbody⟩ := hoffers
  refine ⟨response, hbody, ?_⟩
  rw [fetch_of_not_refused h (Status.isRefused_eq_false_iff.mpr hread)]

/-- Where nothing can be sent or nothing comes back, a fetch fails on the network. -/
theorem fails_on_network (h : ¬ client.Sends url ∨ service.Lapses .broken) :
    ∃ detail, (client.fetch service url).result =
      .error (.network (client.absoluteUrl url) detail) := by
  by_cases hsends : client.Sends url
  · obtain ⟨request, hrequest⟩ := hsends
    exact ⟨_, result_of_lapses hrequest (h.resolve_left fun hnone => hnone ⟨request, hrequest⟩)⟩
  · obtain ⟨detail, hfetch⟩ := fetch_of_not_sends hsends
    exact ⟨detail, congrArg Exchange.result (hfetch service)⟩

/-- Where the time limit runs out, a fetch fails as a timeout, also if a body is overdue and so
could not be decoded. -/
theorem fails_in_time (hsends : client.Sends url)
    (h : service.Lapses .late ∨ service.Offers (.short .late)) :
    (client.fetch service url).result =
      .error (.timeout (client.absoluteUrl url) client.config.timeoutSeconds) := by
  obtain ⟨request, hrequest⟩ := hsends
  rcases h with hlapses | hoffers
  · rw [result_of_lapses hrequest hlapses]
    rfl
  · obtain ⟨response, hbody, hresult⟩ := result_of_offers hrequest hoffers
    rw [hresult, Answer.json, hbody]
    rfl

/-- A status that is refused is what a fetch fails with. -/
theorem fails_with_status (hsends : client.Sends url) {status : ℕ} (h : service.Refuses status) :
    ∃ detail, (client.fetch service url).result =
      .error (.http (client.absoluteUrl url) status detail) := by
  obtain ⟨request, hrequest⟩ := hsends
  obtain ⟨response, rfl, rfl, hrange⟩ := h
  rw [fetch_of_refused hrequest (Status.isRefused_iff.mpr hrange)]
  exact ⟨_, rfl⟩

/-- A body that is broken off, or is no document, cannot be decoded. -/
theorem fails_to_decode (hsends : client.Sends url) (h : service.Offers (.short .broken) ∨
    ∃ bytes, service.Offers (.whole bytes) ∧ Reading.valueOfBytes? bytes = none) :
    ∃ detail, (client.fetch service url).result =
      .error (.decode (client.absoluteUrl url) detail) := by
  obtain ⟨request, hrequest⟩ := hsends
  rcases h with hoffers | ⟨bytes, hoffers, hvalue⟩
  · obtain ⟨response, hbody, hresult⟩ := result_of_offers hrequest hoffers
    rw [hresult, Answer.json, hbody]
    exact ⟨_, rfl⟩
  · obtain ⟨response, hbody, hresult⟩ := result_of_offers hrequest hoffers
    simp only [hresult, Answer.json, hbody, hvalue]
    exact ⟨_, rfl⟩

/-- A body that is a document is what a fetch gives. -/
theorem gives_document (hsends : client.Sends url) {bytes : ByteArray} {v : Value}
    (hoffers : service.Offers (.whole bytes)) (h : Reading.valueOfBytes? bytes = some v) :
    (client.fetch service url).result = .ok v := by
  obtain ⟨request, hrequest⟩ := hsends
  obtain ⟨response, hbody, hresult⟩ := result_of_offers hrequest hoffers
  simp only [hresult, Answer.json, hbody, h]
  rfl

/-- How a fetch comes to its outcome. -/
inductive Concludes (client : Client) (service : Service) (url : RequestUrl) :
    Except TransportError Value → Prop
  | network (h : ¬ client.Sends url ∨ service.Lapses .broken) (detail : String) :
      Concludes client service url (.error (.network (client.absoluteUrl url) detail))
  | timeout (hsends : client.Sends url)
      (h : service.Lapses .late ∨ service.Offers (.short .late)) :
      Concludes client service url
        (.error (.timeout (client.absoluteUrl url) client.config.timeoutSeconds))
  | http (hsends : client.Sends url) {status : ℕ} (h : service.Refuses status)
      (detail : String) :
      Concludes client service url (.error (.http (client.absoluteUrl url) status detail))
  | decode (hsends : client.Sends url) (h : service.Offers (.short .broken) ∨
      ∃ bytes, service.Offers (.whole bytes) ∧ Reading.valueOfBytes? bytes = none)
      (detail : String) :
      Concludes client service url (.error (.decode (client.absoluteUrl url) detail))
  | ok (hsends : client.Sends url) {bytes : ByteArray} (hoffers : service.Offers (.whole bytes))
      {v : Value} (h : Reading.valueOfBytes? bytes = some v) :
      Concludes client service url (.ok v)

/-- Every fetch comes to its outcome in one of these ways. -/
theorem concludes_fetch (client : Client) (service : Service) (url : RequestUrl) :
    client.Concludes service url (client.fetch service url).result := by
  by_cases hsends : client.Sends url
  case neg =>
    have hnone : ¬ client.Sends url ∨ service.Lapses .broken := Or.inl hsends
    obtain ⟨detail, hresult⟩ := fails_on_network hnone
    rw [hresult]
    exact .network hnone detail
  case pos =>
    rcases service.stages with ⟨lapse, h⟩ | ⟨status, h⟩ | ⟨body, h⟩
    · cases lapse with
      | broken =>
        have hnone : ¬ client.Sends url ∨ service.Lapses .broken := Or.inr h
        obtain ⟨detail, hresult⟩ := fails_on_network hnone
        rw [hresult]
        exact .network hnone detail
      | late =>
        rw [fails_in_time hsends (Or.inl h)]
        exact .timeout hsends (Or.inl h)
    · obtain ⟨detail, hresult⟩ := fails_with_status hsends h
      rw [hresult]
      exact .http hsends h detail
    · cases body with
      | short lapse =>
        cases lapse with
        | broken =>
          obtain ⟨detail, hresult⟩ := fails_to_decode hsends (Or.inl h)
          rw [hresult]
          exact .decode hsends (Or.inl h) detail
        | late =>
          rw [fails_in_time hsends (Or.inr h)]
          exact .timeout hsends (Or.inr h)
      | whole bytes =>
        cases hvalue : Reading.valueOfBytes? bytes with
        | none =>
          obtain ⟨detail, hresult⟩ := fails_to_decode hsends (Or.inr ⟨bytes, h, hvalue⟩)
          rw [hresult]
          exact .decode hsends (Or.inr ⟨bytes, h, hvalue⟩) detail
        | some v =>
          rw [gives_document hsends h hvalue]
          exact .ok hsends h hvalue

/-- A fetch fails with a status just if the service refuses it with that. -/
theorem result_eq_http_iff {status : ℕ} :
    (∃ detail, (client.fetch service url).result =
        .error (.http (client.absoluteUrl url) status detail)) ↔
      client.Sends url ∧ service.Refuses status := by
  constructor
  · rintro ⟨detail, hresult⟩
    have hconcludes := client.concludes_fetch service url
    rw [hresult] at hconcludes
    cases hconcludes with
    | http hsends h => exact ⟨hsends, h⟩
  · rintro ⟨hsends, h⟩
    exact fails_with_status hsends h

end Client

end Http

end Isochrone
