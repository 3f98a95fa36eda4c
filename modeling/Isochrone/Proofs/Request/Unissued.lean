import Isochrone.Proofs.Request.LifeCycle
import Isochrone.Proofs.Request.Report

/-!
# Drives that issue nothing

A drive issues no fetch if the request may not load, if its fetch was issued before, or if the
thread of a blocking load cannot be blocked. All these end before anything is written: the request
is the same afterwards, no listener has been called and no transport. A drive that is refused
because of its thread leaves no trace at all, so a run goes on as if it had not been made.
-/

namespace Isochrone

variable {ι : Type}

namespace LoadError

/-- Whether an error is the refusal of a drive, and not the failure of a fetch. -/
def isRefusal : LoadError → Bool
  | .alreadyIssued _ | .runtime _ | .blockingInCurrentThread => true
  | .transport _ | .malformedResponse _ _ | .feature _ => false

end LoadError

namespace Operation

/-- Whether an operation is a blocking load on the only thread of an executor. -/
def blocksOnlyThread : Operation ι → Bool
  | .loadBlocking .currentThread _ => true
  | _ => false

end Operation

namespace Request

variable {r : Request ι} {operation : Operation ι} {cause : LoadError}

/-- What comes of a drive that issues nothing: the request is as it was, down to its queue and its
recorded error, and neither a transport nor a listener is called. -/
structure Untouched {α : Type} (r : Request ι) (done : Outcome ι α) : Prop where
  request : done.request = r
  calls : callsOf done.events = []
  deliveries : deliveriesOf done.events = []

theorem untouched_of_notes {α : Type} {done : Outcome ι α} (lines : List LogLine)
    (hrequest : done.request = r) (hevents : done.events = lines.map .note) :
    r.Untouched done where
  request := hrequest
  calls := by rw [hevents, callsOf_notes]
  deliveries := by rw [hevents, deliveriesOf_notes]

theorem load_untouched_of_idle (t : Transport) (hi : r.state = .idle) :
    (r.load t).result = .ok () ∧ r.Untouched (r.load t) := by
  rw [load_of_idle t hi]
  exact ⟨rfl, untouched_of_notes [.loadingDisabled r.url] rfl rfl⟩

theorem load_untouched_of_refused (t : Transport) (hi : r.state ≠ .idle) (hq : r.state ≠ .queued) :
    (r.load t).result = .error r.refusal ∧ r.Untouched (r.load t) := by
  rw [load_of_refused t hi hq]
  exact ⟨rfl, untouched_of_notes [] rfl rfl⟩

/-- A load is refused only if its fetch was issued before: a fetch that fails has an error of its
own. -/
theorem load_of_isRefusal {t : Transport} (h : (r.load t).result = .error cause)
    (hcause : cause.isRefusal = true) : r.load t = ⟨r, [], .error r.refusal⟩ := by
  by_cases hi : r.state = .idle
  · rw [load_of_idle t hi] at h
    cases h
  by_cases hq : r.state = .queued
  · rcases ((load_result_eq_error_iff hq).mp h).stage with ⟨e, rfl⟩ | ⟨detail, rfl⟩ | ⟨e, rfl⟩
    · cases hcause
    · cases hcause
    · cases hcause
  · exact load_of_refused t hi hq

/-- An operation that has a result is a whole load, or is refused because of its thread. -/
theorem perform_of_result {result : LoadResult} (h : (r.perform operation).result = some result) :
    (∃ t, r.perform operation = (r.load t).map some) ∨
      ∃ caller t cause, operation = .loadBlocking caller t ∧ caller.refusal? = some cause ∧
        r.perform operation = ⟨r, [], some (.error cause)⟩ := by
  cases operation with
  | onLoad listener => cases h
  | load t => exact Or.inl ⟨t, rfl⟩
  | loadBlocking caller t =>
    cases hcaller : caller.refusal? with
    | none =>
      refine Or.inl ⟨t, ?_⟩
      rw [perform, loadBlocking_of_refusal?_none hcaller]
      rfl
    | some cause =>
      refine Or.inr ⟨caller, t, cause, rfl, hcaller, ?_⟩
      rw [perform, loadBlocking_of_refusal?_some hcaller]
  | loadDropped polls t =>
    cases polls with
    | zero => cases h
    | succ polls =>
      by_cases hq : r.state = .queued
      · rw [perform, loadDropped_of_queued t polls hq] at h ⊢
        split at h
        · rw [if_pos ‹_›]
          exact Or.inl ⟨t, rfl⟩
        · cases h
      · exact Or.inl ⟨t, loadDropped_of_not_queued t polls hq⟩

/-- Whichever drive is refused, and for whatever reason, it has done nothing. -/
theorem perform_untouched_of_isRefusal (h : (r.perform operation).result = some (.error cause))
    (hcause : cause.isRefusal = true) : r.Untouched (r.perform operation) := by
  rcases perform_of_result h with ⟨t, hload⟩ | ⟨caller, t, cause', -, -, hrefused⟩
  · rw [hload] at h ⊢
    rw [load_of_isRefusal (Option.some.inj h) hcause]
    exact untouched_of_notes [] rfl rfl
  · rw [hrefused]
    exact untouched_of_notes [] rfl rfl

theorem perform_of_blocksOnlyThread (h : operation.blocksOnlyThread = true) :
    r.perform operation = ⟨r, [], some (.error .blockingInCurrentThread)⟩ := by
  cases operation with
  | loadBlocking caller t =>
    cases caller with
    | currentThread => rfl
    | _ => cases h
  | _ => cases h

/-- Only a blocking load on an only thread is refused as one that would block it. -/
theorem blocksOnlyThread_of_result
    (h : (r.perform operation).result = some (.error .blockingInCurrentThread)) :
    operation.blocksOnlyThread = true := by
  rcases perform_of_result h with ⟨t, hload⟩ | ⟨caller, t, cause, rfl, hcaller, hrefused⟩
  · rw [hload] at h
    have hresult : (r.load t).result = .error .blockingInCurrentThread := Option.some.inj h
    rw [load_of_isRefusal hresult rfl] at hresult
    cases hresult
  · rw [hrefused] at h
    obtain rfl := Except.error.inj (Option.some.inj h)
    cases caller with
    | currentThread => rfl
    | _ => cases hcaller

/-- The operations of a run that are not blocking loads on an only thread. -/
def permitted (operations : List (Operation ι)) : List (Operation ι) :=
  operations.filter fun operation => !operation.blocksOnlyThread

/-- A run is the run of its permitted operations, with a refusal among the results for each other
one. -/
theorem performAll_permitted (r : Request ι) (operations : List (Operation ι)) :
    (r.performAll operations).request = (r.performAll (permitted operations)).request ∧
    (r.performAll operations).events = (r.performAll (permitted operations)).events ∧
    ((r.performAll operations).result.filter fun result =>
        result ≠ some (.error .blockingInCurrentThread)) =
      (r.performAll (permitted operations)).result := by
  induction operations generalizing r with
  | nil => exact ⟨rfl, rfl, rfl⟩
  | cons operation rest ih =>
    cases hblocks : operation.blocksOnlyThread with
    | true =>
      have hpermitted : permitted (operation :: rest) = permitted rest :=
        List.filter_cons_of_neg (by simp [hblocks])
      obtain ⟨hrequest, hevents, hresult⟩ := ih r
      rw [hpermitted, performAll, perform_of_blocksOnlyThread hblocks]
      refine ⟨hrequest, hevents, ?_⟩
      rw [List.filter_cons_of_neg (by simp)]
      exact hresult
    | false =>
      have hpermitted : permitted (operation :: rest) = operation :: permitted rest :=
        List.filter_cons_of_pos (by simp [hblocks])
      have hkept : (r.perform operation).result ≠ some (.error .blockingInCurrentThread) := by
        intro h
        rw [blocksOnlyThread_of_result h] at hblocks
        cases hblocks
      obtain ⟨hrequest, hevents, hresult⟩ := ih (r.perform operation).request
      rw [hpermitted, performAll, performAll]
      refine ⟨hrequest, congrArg (_ ++ ·) hevents, ?_⟩
      rw [List.filter_cons_of_pos (by simpa using hkept)]
      exact congrArg (_ :: ·) hresult

/-- A load of an idle request succeeds, a load of one whose fetch was issued before is refused with
the URL of the request, and a blocking load of a queued one is refused on the only thread of an
executor. All of them, and every other drive that is refused, leave the request as it was and call
neither a transport nor a listener. So a queued request that was refused is loaded afterwards as if
it had not been, and any run comes to what it comes to without the refused blocking loads: the same
request, the same events and the same results. -/
theorem drives_in_vain (r : Request ι) (t : Transport) :
    (r.state = .idle → (r.load t).result = .ok () ∧ r.Untouched (r.load t)) ∧
    (r.state = .pending ∨ r.state = .loaded ∨ (∃ cause, r.state = .failed cause) →
      (r.load t).result = .error (.alreadyIssued r.url.toString) ∧ r.Untouched (r.load t)) ∧
    (r.state = .queued →
      let refused := r.loadBlocking .currentThread t
      refused.result = .error .blockingInCurrentThread ∧ r.Untouched refused ∧
        ∀ t', refused.request.load t' = r.load t') ∧
    (∀ operation cause, (r.perform operation).result = some (.error cause) →
      cause.isRefusal = true → r.Untouched (r.perform operation)) ∧
    ∀ operations,
      let done := r.performAll operations
      let undisturbed := r.performAll (permitted operations)
      done.request = undisturbed.request ∧ done.events = undisturbed.events ∧
        (done.result.filter fun result => result ≠ some (.error .blockingInCurrentThread)) =
          undisturbed.result := by
  refine ⟨load_untouched_of_idle t, ?_, ?_, fun _ _ => perform_untouched_of_isRefusal,
    r.performAll_permitted⟩
  · intro hissued
    apply load_untouched_of_refused t
    · rcases hissued with hs | hs | ⟨cause, hs⟩ <;> simp [hs]
    · rcases hissued with hs | hs | ⟨cause, hs⟩ <;> simp [hs]
  · intro _ refused
    exact ⟨rfl, untouched_of_notes [] rfl rfl, fun _ => rfl⟩

end Request

end Isochrone
