import Isochrone.Proofs.Request.LifeCycle

/-!
# Opened requests

Opening a request that is to be loaded at once is building it and loading it, and comes back
loaded or failed: where the calling thread cannot be blocked, the refusal is recorded as the
failure, and a failure that the load has recorded itself is kept. Any later load is refused as
issued before. Opening any other request is building it.
-/

namespace Isochrone

variable {ι : Type}

namespace Request

/-- Whether a request has come to its end by a load or by the refusal of one. -/
def Settled (r : Request ι) : Prop := r.state = .loaded ∨ ∃ cause, r.state = .failed cause

variable {r : Request ι}

theorem Settled.isPending_eq (h : r.Settled) : r.state.isPending = false := by
  rcases h with hl | ⟨cause, hf⟩
  · rw [hl]
    rfl
  · rw [hf]
    rfl

/-- Whatever is done with a settled request, every load of it is refused as issued before. -/
theorem Settled.load_performAll (h : r.Settled) (later : List (Operation ι)) (t : Transport) :
    (r.performAll later).request.load t =
      ⟨(r.performAll later).request, [], .error (r.performAll later).request.refusal⟩ := by
  have hstate : r.state ≠ .idle ∧ r.state ≠ .queued := by
    rcases h with hl | ⟨cause, hf⟩
    · simp [hl]
    · simp [hf]
  have hlater := state_performAll_of_ne_queued hstate.2 later
  refine load_of_refused t ?_ ?_
  · rw [hlater]
    exact hstate.1
  · rw [hlater]
    exact hstate.2

/-- Opening a request that is to load at once settles it: it comes back loaded or failed, and every
later load is refused without a call. It is the request that building and a blocking load leave,
with the error that the load may have recorded. Only if the thread cannot be blocked is the
request still queued after these two; then opening records the error of the load as its failure,
without features and without a call. With other options opening is building. -/
theorem opens_settled (caller : Caller) (t : Transport) (p : QueryParameters) (c : Cutoffs)
    (o : LoadOptions) :
    let built : Outcome ι Unit := build p c o
    let driven := built.request.loadBlocking caller t
    let opened : Outcome ι Unit := openWith caller t p c o
    if o.load && !o.asynchronous then
      opened.request.Settled ∧ opened.request.state.isPending = false ∧
      (driven.request.state ≠ .queued →
        opened.request = driven.request ∧ opened.events = built.events ++ driven.events) ∧
      (driven.request.state = .queued ↔ caller.refusal? ≠ none) ∧
      (driven.request.state = .queued → ∃ cause, caller.refusal? = some cause ∧
        driven.result = .error cause ∧
        opened.request = { built.request with state := .failed cause } ∧
        opened.request.features = .empty ∧ callsOf opened.events = []) ∧
      ∀ (later : List (Operation ι)) (t' : Transport),
        let r := (opened.request.performAll later).request
        r.load t' = ⟨r, [], .error (.alreadyIssued r.url.toString)⟩
    else opened = built ∧ callsOf opened.events = [] := by
  intro built driven opened
  split
  · rename_i hnow
    have hq : built.request.state = .queued := new_state_of_load p c hnow
    cases hcaller : caller.refusal? with
    | none =>
      have hdriven : driven = built.request.load t :=
        loadBlocking_of_refusal?_none hcaller t built.request
      have hopened : opened = ⟨driven.request, built.events ++ driven.events, ()⟩ := by
        rw [hdriven]
        exact openWith_of_driven t p c hnow hcaller
      have hsettled : driven.request.Settled := by
        rw [hdriven]
        exact load_settles t hq
      have hleft : driven.request.state ≠ .queued := by
        rw [hdriven]
        exact load_state_ne_queued t hq
      rw [hopened]
      exact ⟨hsettled, hsettled.isPending_eq, fun _ => ⟨rfl, rfl⟩,
        iff_of_false hleft fun h => h rfl, fun h => absurd h hleft, hsettled.load_performAll⟩
    | some cause =>
      have hdriven : driven = ⟨built.request, [], .error cause⟩ :=
        loadBlocking_of_refusal?_some hcaller t built.request
      have hopened : opened = ⟨{ built.request with state := .failed cause },
          [.note (.built (.build p c)), .note (.notLoaded (.build p c) cause)], ()⟩ :=
        openWith_of_refused t p c hnow hcaller
      have hsettled : opened.request.Settled := by
        rw [hopened]
        exact Or.inr ⟨cause, rfl⟩
      have hqueued : driven.request.state = .queued := by
        rw [hdriven]
        exact hq
      refine ⟨hsettled, hsettled.isPending_eq, fun h => absurd hqueued h,
        iff_of_true hqueued nofun, fun _ => ⟨cause, rfl, ?_⟩, hsettled.load_performAll⟩
      rw [hdriven, hopened]
      exact ⟨rfl, rfl, rfl, rfl⟩
  · rename_i hlater
    have hopened : opened = built :=
      openWith_of_later caller t p c (Bool.of_not_eq_true hlater)
    rw [hopened]
    exact ⟨rfl, rfl⟩

end Request

end Isochrone
