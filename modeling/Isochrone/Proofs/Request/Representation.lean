import Isochrone.Proofs.Request.History

/-!
# What a request is at every moment

A request keeps what it was constructed with, and its URL is built from that. It is idle just
when it may not load. Its index is filled once, when it is loaded, from the one body that a
transport has delivered; the queue is empty then. In every other state the index is empty.
-/

namespace Isochrone

variable {ι : Type}

theorem answersOf_heard (t : Option Transport) (request : Request ι) (listeners : List ι) :
    answersOf t (listeners.map fun listener => .heard listener request) = [] :=
  filterMap_heard (fun _ _ => rfl) request listeners

namespace Request

theorem answersOf_issueEvents (t : Transport) (r : Request ι) :
    answersOf (some t) (r.issueEvents t) = [] :=
  answersOf_notes _ (t.notes r.url)

/-- The transport's one answer is the only answer of a fetch. -/
theorem answersOf_answerEvents (t : Transport) (r : Request ι)
    (warnings : List RepeatedCutoff) :
    answersOf (some t) (r.answerEvents warnings) = [t.answer r.url] := by
  rw [answerEvents_eq]
  exact congrArg (t.answer r.url :: ·) (answersOf_notes _ _)

theorem answersOf_complete (t : Option Transport) (r : Request ι) (features : FeatureIndex) :
    answersOf t (r.complete features).events = [] :=
  answersOf_heard t _ _

end Request

/-- The features of a URL are those of the body that the transport delivers for it. -/
theorem Transport.fetchFeatures_eq_ok {t : Transport} {url : RequestUrl}
    {warnings : List RepeatedCutoff} {features : FeatureIndex}
    (h : t.fetchFeatures url = (warnings, .ok features)) :
    ∃ body response, t.answer url = .ok body ∧
      Reading.ofValue Response.decode body = .ok response ∧
      (FeatureIndex.ofResponse response).outcome = .ok features := by
  simp only [fetchFeatures] at h
  cases ha : t.answer url with
  | error e => simp [ha] at h
  | ok body =>
    simp only [ha] at h
    cases hd : Reading.ofValue Response.decode body with
    | error problem => simp [hd] at h
    | ok response =>
      simp only [hd, Prod.mk.injEq] at h
      refine ⟨body, response, rfl, hd, ?_⟩
      cases ho : (FeatureIndex.ofResponse response).outcome with
      | error e => simp [ho, Except.mapError] at h
      | ok index =>
        rw [ho] at h
        exact congrArg Except.ok (Except.ok.inj h.2)

namespace Request

/-- What a request constructed from `p`, `c` and `o` is after these answers. -/
structure Sound (p : QueryParameters) (c : Cutoffs) (o : LoadOptions)
    (answers : List (Except TransportError Json.Value)) (r : Request ι) : Prop where
  parameters : r.parameters = p
  cutoffs : r.cutoffs = c
  options : r.options = o
  url : r.url = .build p c
  idle_iff : r.state = .idle ↔ o.load = false
  /-- A queued request has had no answer. -/
  unanswered : r.state = .queued → answers = []
  /-- A loaded request has indexed its only answer. -/
  loaded : r.state = .loaded → r.listeners = [] ∧ ∃ body response,
    answers = [.ok body] ∧ Reading.ofValue Response.decode body = .ok response ∧
      (FeatureIndex.ofResponse response).outcome = .ok r.features
  /-- Any other request has no features. -/
  unloaded : r.state ≠ .loaded → r.features = .empty

variable {r r' : Request ι} {operation : Operation ι} {events : List (Event ι)}
  {p : QueryParameters} {c : Cutoffs} {o : LoadOptions}
  {answers more : List (Except TransportError Json.Value)}

/-- A request that leaves the queue without being loaded stays sound, whatever the answers. -/
theorem Sound.leave (h : Sound p c o answers r) (hs : r.state = .queued) {s : LoadState}
    (hi : s ≠ .idle) (hq : s ≠ .queued) (hl : s ≠ .loaded) :
    Sound p c o more { r with state := s } where
  parameters := h.parameters
  cutoffs := h.cutoffs
  options := h.options
  url := h.url
  idle_iff := by simp [hi, ← h.idle_iff, hs]
  unanswered hs' := absurd hs' hq
  loaded hs' := absurd hs' hl
  unloaded _ := h.unloaded (by simp [hs])

/-- Every operation keeps a request sound. -/
theorem Effect.sound (he : Effect r operation r' events) (h : Sound p c o answers r) :
    Sound p c o (answers ++ answersOf operation.transport? events) r' := by
  cases he with
  | quiet hop lines =>
    rw [answersOf_notes, List.append_nil]
    exact h
  | queue listener hs =>
    rw [show answersOf _ ([] : List (Event ι)) = [] from rfl, List.append_nil]
    exact { h with loaded := fun hl => absurd hl hs }
  | call listener hs =>
    rw [show answersOf _ [Event.heard listener r] = [] from rfl, List.append_nil]
    exact h
  | abandon hop hs => exact h.leave hs (by simp) (by simp) (by simp)
  | @index _ t hop hs warnings features hf =>
    obtain ⟨body, response, hanswer, hdecode, hindex⟩ := Transport.fetchFeatures_eq_ok hf
    have hanswers : answersOf (some t) (r.issueEvents t ++ (r.answerEvents warnings ++
        (r.issued.complete features).events)) = [.ok body] := by
      rw [answersOf_append, answersOf_append, answersOf_issueEvents, answersOf_answerEvents,
        answersOf_complete, hanswer]
      rfl
    rw [hop, hanswers, h.unanswered hs]
    exact {
      parameters := h.parameters
      cutoffs := h.cutoffs
      options := h.options
      url := h.url
      idle_iff := by simp [complete, ← h.idle_iff, hs]
      unanswered := fun hq => by simp [complete] at hq
      loaded := fun _ => ⟨rfl, body, response, rfl, hdecode, hindex⟩
      unloaded := fun hne => absurd rfl hne }
  | fail hop hs hf => exact h.leave hs (by simp) (by simp) (by simp)

/-- A new request is sound. -/
theorem sound_new (p : QueryParameters) (c : Cutoffs) (o : LoadOptions) :
    Sound p c o [] (new p c o : Request ι) where
  parameters := rfl
  cutoffs := rfl
  options := rfl
  url := rfl
  idle_iff := by
    rw [new_state]
    cases o.load <;> simp
  unanswered _ := rfl
  loaded hl := by
    rw [new_state] at hl
    split at hl <;> cases hl
  unloaded _ := rfl

theorem Opening.sound {how : Construction} (ho : Opening r how r' events)
    (h : Sound p c o [] r) : Sound p c o (answersOf how.transport? events) r' := by
  cases ho with
  | built => exact h
  | driven hhow hop he =>
    have hsound := he.sound h
    rw [hop, ← hhow] at hsound
    exact hsound
  | refused hhow hs cause => exact h.leave hs (by simp) (by simp) (by simp)

end Request

namespace History

/-- The request of every history is sound. -/
theorem sound (h : History ι) :
    Request.Sound h.parameters h.cutoffs h.options h.answers h.request := by
  induction h using History.induction with
  | opened how p c o =>
    rw [answers_start]
    exact (start_effect how p c o).sound (Request.sound_new p c o)
  | step h operation ih =>
    rw [answers_followedBy, request_followedBy, Request.performAll_singleton,
      Request.answers_singleton]
    exact (Request.perform_effect h.request operation).sound ih

/-- At every moment a request is sound for what it was constructed with and the answers it has
had. The index of a loaded request is never touched again, and any other request has no feature
for any cutoff. -/
theorem represents (h : History ι) :
    Request.Sound h.parameters h.cutoffs h.options h.answers h.request ∧
    (h.request.state = .loaded →
      ∀ more : List (Operation ι), (h.followedBy more).request.features = h.request.features) ∧
    (h.request.state ≠ .loaded → ∀ seconds, h.request.feature? seconds = none) := by
  refine ⟨h.sound, ?_, ?_⟩
  · intro hs more
    rw [request_followedBy, Request.performAll_of_loaded hs]
  · intro hs seconds
    rw [Request.feature?, h.sound.unloaded hs]
    rfl

end History

end Isochrone
