import Isochrone.Proofs.Request.History

/-!
# Delivery to listeners

A listener is either called while the features are taken over, from the queue, or at once when
it registers later. Both paths together serve all listeners: as long as a request is not loaded
its queue holds every registered listener and none has been called; once it is loaded the queue
is empty and each has been called once, in the order of registration, with the loaded request.
-/

namespace Isochrone

variable {ι : Type}

theorem deliveriesOf_heard (request : Request ι) (listeners : List ι) :
    deliveriesOf (listeners.map fun listener => .heard listener request) =
      listeners.map fun listener => (listener, request) := by
  induction listeners with
  | nil => rfl
  | cons listener listeners ih => exact congrArg ((listener, request) :: ·) ih

namespace Request

theorem deliveriesOf_issueEvents (t : Transport) (r : Request ι) :
    deliveriesOf (r.issueEvents t) = [] :=
  deliveriesOf_notes (t.notes r.url)

theorem deliveriesOf_answerEvents (r : Request ι) (warnings : List RepeatedCutoff) :
    deliveriesOf (r.answerEvents warnings) = [] := by
  rw [answerEvents_eq]
  exact deliveriesOf_notes (warnings.map LogLine.repeated)

/-- Taking over the features calls the queue in order, with the request as it is then. -/
theorem deliveriesOf_complete (r : Request ι) (features : FeatureIndex) :
    deliveriesOf (r.complete features).events =
      r.listeners.map fun listener => (listener, (r.complete features).request) :=
  deliveriesOf_heard _ _

/-- How far the registered listeners are served when a request has come to `r`. -/
structure Served (registered : List ι) (delivered : List (ι × Request ι)) (r : Request ι) :
    Prop where
  /-- All are queued until the request is loaded. -/
  queued : r.state ≠ .loaded → r.listeners = registered ∧ delivered = []
  /-- Then all have been called with the loaded request. -/
  called : r.state = .loaded →
    r.listeners = [] ∧ delivered = registered.map fun listener => (listener, r)

variable {r r' : Request ι} {operation : Operation ι} {events : List (Event ι)}
  {registered : List ι} {delivered : List (ι × Request ι)}

/-- Where neither a listener is registered nor one called, and the queue stays, a request that
is not loaded stays served. -/
theorem Served.of_unloaded (h : Served registered delivered r) (hs : r.state ≠ .loaded)
    (hs' : r'.state ≠ .loaded) (hlisteners : r'.listeners = r.listeners) :
    Served registered delivered r' := by
  obtain ⟨hqueue, hnone⟩ := h.queued hs
  exact ⟨fun _ => ⟨hlisteners.trans hqueue, hnone⟩, fun hl => absurd hl hs'⟩

/-- Every operation keeps the registered listeners served. -/
theorem Effect.served (he : Effect r operation r' events)
    (h : Served registered delivered r) :
    Served (registered ++ operation.listener?.toList) (delivered ++ deliveriesOf events) r' := by
  cases he with
  | quiet hop lines =>
    rw [hop, deliveriesOf_notes, Option.toList_none, List.append_nil, List.append_nil]
    exact h
  | queue listener hs =>
    obtain ⟨hqueue, hnone⟩ := h.queued hs
    refine ⟨fun _ => ⟨congrArg (· ++ [listener]) hqueue, ?_⟩, fun hl => absurd hl hs⟩
    rw [hnone]
    rfl
  | call listener hs =>
    obtain ⟨hqueue, hall⟩ := h.called hs
    refine ⟨fun hne => absurd hs hne, fun _ => ⟨hqueue, ?_⟩⟩
    rw [hall, Operation.listener?, Option.toList_some, List.map_append]
    rfl
  | abandon hop hs =>
    rw [Operation.listener?_eq_none hop, deliveriesOf_issueEvents, Option.toList_none,
      List.append_nil, List.append_nil]
    exact h.of_unloaded (by simp [hs]) (by simp [issued]) rfl
  | @index _ t hop hs warnings features hf =>
    obtain ⟨hqueue, hnone⟩ := h.queued (by simp [hs])
    have hdelivered : deliveriesOf (r.issueEvents t ++ (r.answerEvents warnings ++
        (r.issued.complete features).events)) =
        registered.map fun listener => (listener, (r.issued.complete features).request) := by
      rw [deliveriesOf_append, deliveriesOf_append, deliveriesOf_issueEvents,
        deliveriesOf_answerEvents, deliveriesOf_complete, ← hqueue]
      rfl
    refine ⟨fun hne => absurd rfl hne, fun _ => ⟨rfl, ?_⟩⟩
    rw [hnone, hdelivered, Operation.listener?_eq_none hop, Option.toList_none,
      List.append_nil, List.nil_append]
  | @fail _ t hop hs warnings cause hf =>
    have hdelivered : deliveriesOf (r.issueEvents t ++ (r.answerEvents warnings ++
        [.note (.loadFailed r.url cause)])) = [] := by
      rw [deliveriesOf_append, deliveriesOf_append, deliveriesOf_issueEvents,
        deliveriesOf_answerEvents]
      rfl
    rw [Operation.listener?_eq_none hop, hdelivered, Option.toList_none, List.append_nil,
      List.append_nil]
    exact h.of_unloaded (by simp [hs]) (by simp) rfl

/-- A new request has no listeners to serve. -/
theorem served_new (p : QueryParameters) (c : Cutoffs) (o : LoadOptions) :
    Served [] [] (new p c o : Request ι) := by
  have hs : (new p c o : Request ι).state ≠ .loaded := by
    rw [new_state]
    split <;> simp
  exact ⟨fun _ => ⟨rfl, rfl⟩, fun hl => absurd hl hs⟩

theorem Opening.served {how : Construction} (ho : Opening r how r' events)
    (h : Served [] [] r) : Served [] (deliveriesOf events) r' := by
  cases ho with
  | built => exact h
  | driven hhow hop he =>
    have hserved := he.served h
    rw [Operation.listener?_eq_none hop] at hserved
    exact hserved
  | refused hhow hs cause => exact h.of_unloaded (by simp [hs]) (by simp) rfl

end Request

namespace History

/-- The listeners of every history are served. -/
theorem served (h : History ι) : Request.Served h.registered h.deliveries h.request := by
  induction h using History.induction with
  | opened how p c o =>
    exact (start_effect how p c o).served (Request.served_new p c o)
  | step h operation ih =>
    have hserved := (Request.perform_effect h.request operation).served ih
    rw [registered_followedBy, deliveries_followedBy, request_followedBy,
      Request.performAll_singleton]
    exact hserved

/-- Over a whole history every registered listener is called exactly once, in the order of
registration, if the request ends loaded, and none is called otherwise. Each call shows a loaded
request, which stays the same whatever follows. -/
theorem delivers_each_listener_once (h : History ι) :
    h.deliveries.map Prod.fst = (if h.request.state = .loaded then h.registered else []) ∧
    ∀ delivery ∈ h.deliveries, delivery.2.state = .loaded ∧
      ∀ more : List (Operation ι), (h.followedBy more).request = delivery.2 := by
  by_cases hs : h.request.state = .loaded
  · obtain ⟨-, hall⟩ := h.served.called hs
    rw [if_pos hs, hall]
    constructor
    · rw [List.map_map]
      exact List.map_id' _
    · intro delivery hmem
      obtain ⟨listener, -, rfl⟩ := List.mem_map.mp hmem
      refine ⟨hs, fun more => ?_⟩
      rw [request_followedBy]
      exact Request.performAll_of_loaded hs more
  · obtain ⟨-, hnone⟩ := h.served.queued hs
    rw [if_neg hs, hnone]
    exact ⟨rfl, fun delivery hmem => absurd hmem List.not_mem_nil⟩

end History

end Isochrone
