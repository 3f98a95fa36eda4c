import Isochrone.Proofs.Request.LifeCycle
import Isochrone.Stub

/-!
# Abandoned loads

A request is pending while it is queued and while its fetch is under way. A queued request can
still be loaded. One whose load was dropped in between cannot: its transport has been called,
no answer is taken any more, and every later load is refused. So whether a pending request can
be finished depends on the first operation that polls a load.
-/

namespace Isochrone

variable {ι : Type}

namespace Operation

/-- Whether an operation polls a load at all. -/
def polls : Operation ι → Bool
  | .onLoad _ => false
  | .load _ => true
  | .loadBlocking .outside _ | .loadBlocking .multiThread _ => true
  | .loadBlocking .currentThread _ | .loadBlocking (.unequipped _) _ => false
  | .loadDropped polls _ => polls ≠ 0

/-- Whether an operation drops a load after its first poll and before the answer is there. -/
def abandons : Operation ι → Bool
  | .loadDropped polls t => polls ≠ 0 && polls ≤ t.delay
  | _ => false

theorem abandons_loadDropped {polls : Nat} {t : Transport} :
    (loadDropped polls t : Operation ι).abandons = true ↔ polls ≠ 0 ∧ polls ≤ t.delay := by
  simp [abandons]

end Operation

namespace Request

variable {r : Request ι} {operation : Operation ι}

theorem load_state_ne_pending (t : Transport) (hq : r.state = .queued) :
    (r.load t).request.state ≠ .pending := by
  rcases load_settles t hq with hl | ⟨cause, hf⟩
  · simp [hl]
  · simp [hf]

/-- An operation that polls no load leaves the load state. -/
theorem state_perform_of_not_polls (h : operation.polls = false) :
    (r.perform operation).request.state = r.state := by
  cases operation with
  | onLoad listener =>
    simp only [perform, onLoad]
    split <;> rfl
  | load t => cases h
  | loadBlocking caller t =>
    cases caller with
    | outside => cases h
    | multiThread => cases h
    | currentThread => rfl
    | unequipped detail => rfl
  | loadDropped polls t =>
    have hzero : polls = 0 := by simpa [Operation.polls] using h
    subst hzero
    rfl

/-- An operation that polls a load of a queued request leaves it pending if it drops that load
before the answer is there, and is the whole load otherwise. -/
theorem state_perform_of_polls (hq : r.state = .queued) (h : operation.polls = true) :
    ∃ t, (r.perform operation).request.state =
      if operation.abandons then .pending else (r.load t).request.state := by
  cases operation with
  | onLoad listener => cases h
  | load t => exact ⟨t, rfl⟩
  | loadBlocking caller t =>
    cases caller with
    | outside => exact ⟨t, rfl⟩
    | multiThread => exact ⟨t, rfl⟩
    | currentThread => cases h
    | unequipped detail => cases h
  | loadDropped polls t =>
    refine ⟨t, ?_⟩
    cases polls with
    | zero => cases h
    | succ polls =>
      simp only [perform, loadDropped_of_queued t polls hq]
      by_cases hdelay : t.delay ≤ polls
      · have hkept : ¬ (Operation.loadDropped (polls + 1) t : Operation ι).abandons = true := by
          rw [Operation.abandons_loadDropped]
          omega
        rw [if_pos hdelay, if_neg hkept]
        rfl
      · have hdropped : (Operation.loadDropped (polls + 1) t : Operation ι).abandons = true := by
          rw [Operation.abandons_loadDropped]
          omega
        rw [if_neg hdelay, if_pos hdropped]
        rfl

/-- Operations on a queued request leave it pending if the first of them that polls a load
abandons it. -/
theorem state_performAll_eq_pending_iff (hq : r.state = .queued)
    (operations : List (Operation ι)) :
    (r.performAll operations).request.state = .pending ↔
      ∃ operation, operations.find? Operation.polls = some operation ∧
        operation.abandons = true := by
  induction operations generalizing r with
  | nil => simp [performAll, hq]
  | cons operation rest ih =>
    cases hpolls : operation.polls with
    | true =>
      obtain ⟨t, hstate⟩ := state_perform_of_polls hq hpolls
      have hne : (r.perform operation).request.state ≠ .queued := by
        rw [hstate]
        split
        · simp
        · exact load_state_ne_queued t hq
      rw [performAll, state_performAll_of_ne_queued hne, hstate,
        List.find?_cons_of_pos hpolls]
      cases hdropped : operation.abandons with
      | true => simp [hdropped]
      | false => simp [hdropped, load_state_ne_pending t hq]
    | false =>
      have hstate := (state_perform_of_not_polls hpolls).trans hq
      rw [performAll, ih hstate, List.find?_cons_of_neg (by simp [hpolls])]

/-- Whether a load calls its transport, whichever that is, and leaves the request loaded or
failed. -/
def CanFinish (r : Request ι) : Prop :=
  ∀ t : Transport, callsOf (r.load t).events = [r.url] ∧
    ((r.load t).request.state = .loaded ∨
      ∃ cause, (r.load t).request.state = .failed cause)

theorem canFinish_of_queued (hq : r.state = .queued) : r.CanFinish := by
  intro t
  refine ⟨?_, load_settles t hq⟩
  rcases hf : t.fetchFeatures r.url with ⟨warnings, cause | features⟩
  · rw [load_of_failed hq hf]
    exact callsOf_issueEvents_append t r (course_fail r warnings cause)
  · rw [load_of_indexed hq hf]
    exact callsOf_issueEvents_append t r (course_index r warnings features)

/-- A pending request refuses every load. -/
theorem load_of_pending (t : Transport) (hp : r.state = .pending) :
    r.load t = ⟨r, [], .error r.refusal⟩ :=
  load_of_refused t (by simp [hp]) (by simp [hp])

theorem not_canFinish_of_pending (hp : r.state = .pending) : ¬ r.CanFinish := by
  intro h
  have hcalls := (h (.fixed (.ok .null) 0)).1
  rw [load_of_pending _ hp] at hcalls
  cases hcalls

/-- A construction leaves no request pending. -/
theorem construct_state_ne_pending (how : Construction) (p : QueryParameters) (c : Cutoffs)
    (o : LoadOptions) : (construct how p c o : Outcome ι Unit).request.state ≠ .pending := by
  have hnew : (new p c o : Request ι).state ≠ .pending := by
    rw [new_state]
    split <;> simp
  cases how with
  | new => exact hnew
  | openWith caller t =>
    rw [construct]
    rcases openWith_cases caller t p c o with ho | ⟨hq, ho | ⟨cause, ho⟩⟩
    · rw [ho]
      exact hnew
    · rw [ho]
      exact load_state_ne_pending t hq
    · rw [ho]
      simp

end Request

namespace History

/-- Whether the construction left the request queued, and the first operation that polled a
load abandoned it. -/
def Abandoned (h : History ι) : Prop :=
  h.opening.request.state = .queued ∧
    ∃ operation, h.operations.find? Operation.polls = some operation ∧
      operation.abandons = true

theorem state_eq_pending_iff (h : History ι) : h.request.state = .pending ↔ h.Abandoned := by
  have hopening : h.opening.request.state ≠ .pending :=
    Request.construct_state_ne_pending h.how h.parameters h.cutoffs h.options
  by_cases hq : h.opening.request.state = .queued
  · rw [Abandoned, and_iff_right hq]
    exact Request.state_performAll_eq_pending_iff hq h.operations
  · have hstate : h.request.state = h.opening.request.state :=
      Request.state_performAll_of_ne_queued hq h.operations
    rw [hstate, Abandoned]
    exact iff_of_false hopening fun ha => hq ha.1

/-- A request that shows as pending can be finished by a load exactly if no load of it was
abandoned. One whose load was abandoned stays pending, and refuses every load without calling
a transport. -/
theorem can_finish_iff_not_abandoned (h : History ι) :
    ((h.request.state.isPending = true → h.request.CanFinish) ↔ ¬ h.Abandoned) ∧
    (h.Abandoned → h.request.state = .pending ∧
      ∀ t : Transport, h.request.load t = ⟨h.request, [], .error h.request.refusal⟩) := by
  constructor
  · rw [← state_eq_pending_iff]
    constructor
    · intro hfinish hp
      have hpending : h.request.state.isPending = true := by rw [hp]; rfl
      exact Request.not_canFinish_of_pending hp (hfinish hpending)
    · intro hp hpending
      apply Request.canFinish_of_queued
      cases hs : h.request.state with
      | queued => rfl
      | pending => exact absurd hs hp
      | idle | loaded | failed _ =>
        rw [hs] at hpending
        cases hpending
  · intro ha
    have hp := h.state_eq_pending_iff.mpr ha
    exact ⟨hp, fun t => Request.load_of_pending t hp⟩

/-- A load that is dropped after its only poll, while the answer takes one more. -/
def droppedEarly : History Unit :=
  ⟨.new, .empty, ⟨[300]⟩, .default, [.loadDropped 1 (Stub.ofCutoffs 1 [300])]⟩

/-- A request can show as pending with no load left that would finish it. -/
theorem droppedEarly_never_finishes :
    droppedEarly.request.state.isPending = true ∧ ¬ droppedEarly.request.CanFinish := by
  have hp : droppedEarly.request.state = .pending := rfl
  exact ⟨rfl, Request.not_canFinish_of_pending hp⟩

end History

end Isochrone
