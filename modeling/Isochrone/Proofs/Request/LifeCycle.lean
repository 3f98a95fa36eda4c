import Isochrone.Proofs.Request.History

/-!
# The life cycle of a request

The load state of a request moves with the calls and answers of its transport and with nothing
else: a call makes a queued request pending, an answer makes a pending one loaded or failed.
A state that has been left is never entered again, so the transport is called at most once in
a whole history. The one other way to fail is a refusal recorded while the request is opened.
-/

namespace Isochrone

variable {ι : Type}

/-- The course of the load state along events. -/
inductive Course : LoadState → List (Event ι) → LoadState → Prop
  | done (s) : Course s [] s
  /-- A note changes nothing. -/
  | note {s events s'} (line : LogLine) (rest : Course s events s') :
      Course s (.note line :: events) s'
  /-- The call of a listener changes nothing. -/
  | heard {s events s'} (listener : ι) (request : Request ι) (rest : Course s events s') :
      Course s (.heard listener request :: events) s'
  /-- The fetch is issued. -/
  | asked {events s'} (url : RequestUrl) (rest : Course .pending events s') :
      Course .queued (.asked url :: events) s'
  /-- The answer is indexed. -/
  | indexed {events s'} (url : RequestUrl) (rest : Course .loaded events s') :
      Course .pending (.answered url :: events) s'
  /-- The answer is an error or cannot be indexed. -/
  | failed {events s'} (url : RequestUrl) (cause : LoadError)
      (rest : Course (.failed cause) events s') :
      Course .pending (.answered url :: events) s'

namespace Course

variable {s s' s'' : LoadState} {events later : List (Event ι)}

/-- Two courses of which one ends where the other begins are one course. -/
theorem append (h : Course s events s') (h' : Course s' later s'') :
    Course s (events ++ later) s'' := by
  induction h with
  | done s => exact h'
  | note line rest ih => exact .note line (ih h')
  | heard listener request rest ih => exact .heard listener request (ih h')
  | asked url rest ih => exact .asked url (ih h')
  | indexed url rest ih => exact .indexed url (ih h')
  | failed url cause rest ih => exact .failed url cause (ih h')

/-- Notes leave the state as it is. -/
theorem notes (s : LoadState) (lines : List LogLine) :
    Course s (lines.map .note : List (Event ι)) s := by
  induction lines with
  | nil => exact .done s
  | cons line lines ih => exact .note line ih

/-- Calls of listeners leave the state as it is. -/
theorem deliveries (s : LoadState) (request : Request ι) (listeners : List ι) :
    Course s (listeners.map fun listener => .heard listener request) s := by
  induction listeners with
  | nil => exact .done s
  | cons listener listeners ih => exact .heard listener request ih

/-- An idle, loaded or failed request stays as it is, and calls no transport. -/
theorem of_settled (h : Course s events s') (hq : s ≠ .queued) (hp : s ≠ .pending) :
    s' = s ∧ callsOf events = [] := by
  induction h with
  | done s => exact ⟨rfl, rfl⟩
  | note line rest ih => exact ih hq hp
  | heard listener request rest ih => exact ih hq hp
  | asked url rest ih => exact absurd rfl hq
  | indexed url rest ih => exact absurd rfl hp
  | failed url cause rest ih => exact absurd rfl hp

/-- A transport is called by queued requests only. -/
theorem calls_of_not_queued (h : Course s events s') (hq : s ≠ .queued) :
    callsOf events = [] := by
  induction h with
  | done s => rfl
  | note line rest ih => exact ih hq
  | heard listener request rest ih => exact ih hq
  | asked url rest ih => exact absurd rfl hq
  | indexed url rest ih => exact (rest.of_settled (by simp) (by simp)).2
  | failed url cause rest ih => exact (rest.of_settled (by simp) (by simp)).2

/-- A request calls transports at most once in its course. -/
theorem length_calls_le (h : Course s events s') : (callsOf events).length ≤ 1 := by
  induction h with
  | done s => exact Nat.zero_le 1
  | note line rest ih => exact ih
  | heard listener request rest ih => exact ih
  | asked url rest ih =>
    rw [callsOf_asked, rest.calls_of_not_queued (by simp)]
    exact Nat.le_refl 1
  | indexed url rest ih => exact ih
  | failed url cause rest ih => exact ih

end Course

namespace Request

variable {r r' : Request ι} {how : Construction} {operation : Operation ι}
  {events : List (Event ι)}

/-- Calling the transport goes from queued to pending. -/
theorem course_issue (t : Transport) (r : Request ι) :
    Course .queued (r.issueEvents t) .pending :=
  .note _ (.asked _ (.notes _ _))

/-- Taking over features goes from pending to loaded. -/
theorem course_index (r : Request ι) (warnings : List RepeatedCutoff)
    (features : FeatureIndex) :
    Course .pending (r.answerEvents warnings ++ (r.issued.complete features).events)
      .loaded := by
  rw [answerEvents_eq]
  exact .indexed _ ((Course.notes _ _).append (.note _ (.deliveries _ _ _)))

/-- Taking an error goes from pending to failed. -/
theorem course_fail (r : Request ι) (warnings : List RepeatedCutoff) (cause : LoadError) :
    Course .pending (r.answerEvents warnings ++ [.note (.loadFailed r.url cause)])
      (.failed cause) := by
  rw [answerEvents_eq]
  exact .failed _ _ ((Course.notes _ _).append (.note _ (.done _)))

/-- An operation moves the load state along its events. -/
theorem Effect.course (h : Effect r operation r' events) :
    Course r.state events r'.state := by
  cases h with
  | quiet hop lines => exact .notes _ lines
  | queue listener hs => exact .done _
  | call listener hs => exact .heard listener r (.done _)
  | abandon hop hs =>
    rw [hs]
    exact course_issue _ r
  | index hop hs hf =>
    rw [hs]
    exact (course_issue _ r).append (course_index r _ _)
  | fail hop hs hf =>
    rw [hs]
    exact (course_issue _ r).append (course_fail r _ _)

/-- Issuing a load calls the transport once, for the URL of the request. -/
theorem callsOf_issueEvents (t : Transport) (r : Request ι) :
    callsOf (r.issueEvents t) = [r.url] := by
  have hnotes : callsOf ((t.notes r.url).map .note : List (Event ι)) = [] := callsOf_notes _
  exact congrArg (r.url :: ·) hnotes

/-- What a pending request does after its fetch was issued calls no transport. -/
theorem callsOf_issueEvents_append (t : Transport) (r : Request ι) {s : LoadState}
    (h : Course .pending events s) : callsOf (r.issueEvents t ++ events) = [r.url] := by
  rw [callsOf_append, callsOf_issueEvents, h.calls_of_not_queued (by simp), List.append_nil]

/-- An operation calls a transport with the URL of the request only. -/
theorem Effect.calls (h : Effect r operation r' events) :
    ∀ url ∈ callsOf events, url = r.url := by
  intro url hurl
  cases h with
  | quiet hop lines =>
    rw [callsOf_notes] at hurl
    cases hurl
  | queue listener hs => cases hurl
  | call listener hs => cases hurl
  | abandon hop hs =>
    rw [callsOf_issueEvents] at hurl
    exact List.mem_singleton.mp hurl
  | index hop hs hf =>
    rw [callsOf_issueEvents_append _ r (course_index r _ _)] at hurl
    exact List.mem_singleton.mp hurl
  | fail hop hs hf =>
    rw [callsOf_issueEvents_append _ r (course_fail r _ _)] at hurl
    exact List.mem_singleton.mp hurl

/-- No operation touches the URL. -/
theorem Effect.url_eq (h : Effect r operation r' events) : r'.url = r.url := by
  cases h <;> rfl

/-- An opening moves the load state along its events, or records a refusal without a call. -/
theorem Opening.course (h : Opening r how r' events) :
    Course r.state events r'.state ∨
      how ≠ .new ∧ r.state = .queued ∧ callsOf events = [] ∧
        ∃ cause, r'.state = .failed cause := by
  cases h with
  | built => exact Or.inl (.note _ (.done _))
  | driven hhow hop he => exact Or.inl (.note _ he.course)
  | refused hhow hs cause => exact Or.inr ⟨hhow, hs, rfl, cause, rfl⟩

/-- Opening a request calls the transport for no other URL. -/
theorem Opening.calls (h : Opening r how r' events) :
    ∀ url ∈ callsOf events, url = r.url := by
  cases h with
  | built => exact fun url hurl => absurd hurl List.not_mem_nil
  | driven hhow hop he => exact he.calls
  | refused hhow hs cause => exact fun url hurl => absurd hurl List.not_mem_nil

/-- Opening a request leaves its URL as it was built. -/
theorem Opening.url_eq (h : Opening r how r' events) : r'.url = r.url := by
  cases h with
  | built => rfl
  | driven hhow hop he => exact he.url_eq
  | refused hhow hs cause => rfl

/-- Operations in a row move the load state along all their events. -/
theorem course_performAll (r : Request ι) (operations : List (Operation ι)) :
    Course r.state (r.performAll operations).events
      (r.performAll operations).request.state := by
  induction operations generalizing r with
  | nil => exact .done _
  | cons operation rest ih => exact (perform_effect r operation).course.append (ih _)

end Request

namespace History

/-- The calls of a history are those of its opening and those of its sequel. -/
theorem calls_eq (h : History ι) :
    h.calls = callsOf h.opening.events ++ callsOf h.sequel.events := callsOf_append _ _

/-- The sequel of a history takes the state of its opening to that of its request. -/
theorem course_sequel (h : History ι) :
    Course h.opening.request.state h.sequel.events h.request.state :=
  Request.course_performAll h.opening.request h.operations

/-- No history calls a transport twice. -/
theorem length_calls_le_one (h : History ι) : h.calls.length ≤ 1 := by
  rcases h.opening_effect.course with hopen | ⟨-, -, hcalls, cause, hfailed⟩
  · exact (hopen.append h.course_sequel).length_calls_le
  · rw [calls_eq, hcalls]
    exact h.course_sequel.length_calls_le

/-- Without permission to load the request stays idle, and no transport is called. -/
theorem calls_eq_nil (h : History ι) (hload : h.options.load = false) : h.calls = [] := by
  have hidle : (.new h.parameters h.cutoffs h.options : Request ι).state = .idle := by
    rw [Request.new_state, if_neg (by simp [hload])]
  rcases h.opening_effect.course with hopen | ⟨-, hqueued, -⟩
  · rw [hidle] at hopen
    exact ((hopen.append h.course_sequel).of_settled (by simp) (by simp)).2
  · rw [hidle] at hqueued
    cases hqueued

/-- Transports are called with the URL of the request. -/
theorem calls_url (h : History ι) : ∀ url ∈ h.calls, url = h.request.url := by
  induction h using History.induction with
  | opened how p c o =>
    have hopening : Request.Opening (.new p c o) how (start how p c o : History ι).request _ :=
      start_effect how p c o
    intro url hurl
    exact (hopening.calls url hurl).trans hopening.url_eq.symm
  | step h operation ih =>
    have heffect := Request.perform_effect h.request operation
    intro url hurl
    rw [calls_followedBy, Request.performAll_singleton] at hurl
    rw [request_followedBy, Request.performAll_singleton]
    refine Eq.trans ?_ heffect.url_eq.symm
    rcases List.mem_append.mp hurl with hbefore | hnow
    · exact ih url hbefore
    · exact heffect.calls url hnow

/-- A request fetches at most once in its whole history, never where it may not load, and only
its own URL. Its load state runs through the life cycle: outside the recorded refusal of an
opening it moves with calls and answers alone, and an idle, loaded or failed state is final. -/
theorem fetches_once_and_advances (h : History ι) :
    h.calls.length ≤ 1 ∧
    (h.options.load = false → h.calls = []) ∧
    (∀ url ∈ h.calls, url = h.request.url) ∧
    (Course (.new h.parameters h.cutoffs h.options : Request ι).state h.opening.events
        h.opening.request.state ∨
      h.how ≠ .new ∧ (.new h.parameters h.cutoffs h.options : Request ι).state = .queued ∧
        callsOf h.opening.events = [] ∧ ∃ cause, h.opening.request.state = .failed cause) ∧
    ∀ more : List (Operation ι),
      Course h.request.state (h.request.performAll more).events
        (h.followedBy more).request.state ∧
      (h.request.state ≠ .queued → h.request.state ≠ .pending →
        (h.followedBy more).request.state = h.request.state) := by
  refine ⟨h.length_calls_le_one, h.calls_eq_nil, h.calls_url, h.opening_effect.course, ?_⟩
  intro more
  have hrun := Request.course_performAll h.request more
  rw [← request_followedBy] at hrun
  exact ⟨hrun, fun hq hp => (hrun.of_settled hq hp).1⟩

end History

end Isochrone
