import Isochrone.Proofs.Request.Delivery
import Isochrone.Proofs.Request.LifeCycle
import Isochrone.Proofs.Request.Representation

/-!
# One load, however it is driven

Who drives a load to its end, and how often its transport lets a poll pass before, shows in
nothing that the load does. A load that is dropped differs from it by the number of its polls
alone: not polled it does nothing, polled until its answer is there it is the whole load, and
in between it has called its transport and left the request pending.
-/

namespace Isochrone

variable {ι : Type}

/-- The same transport, where the answer is there after `delay` polls. -/
def Transport.delayed (t : Transport) (delay : Nat) : Transport := { t with delay := delay }

namespace Request

variable {r : Request ι}

/-- A load depends on its transport by what it notes and answers alone. -/
theorem load_congr {t t' : Transport} (hnotes : t.notes r.url = t'.notes r.url)
    (hanswer : t.answer r.url = t'.answer r.url) : r.load t = r.load t' := by
  by_cases hq : r.state = .queued
  · have hfetch : t.fetchFeatures r.url = t'.fetchFeatures r.url := by
      simp only [Transport.fetchFeatures, hanswer]
    have hissue : r.issueEvents t = r.issueEvents t' := by
      simp only [issueEvents, hnotes]
    have hsettle : r.issued.settle t = r.issued.settle t' := by
      simp only [settle, issued, hfetch]
    rw [load_of_queued t hq, load_of_queued t' hq, hissue, hsettle]
  · by_cases hi : r.state = .idle
    · rw [load_of_idle t hi, load_of_idle t' hi]
    · rw [load_of_refused t hi hq, load_of_refused t' hi hq]

/-- A load that is dropped while it waits has called its transport and done nothing else. -/
theorem loadDropped_of_waiting (t : Transport) (hq : r.state = .queued) {polls : Nat}
    (hpolled : 1 ≤ polls) (hwaits : polls ≤ t.delay) :
    r.loadDropped t polls = ⟨r.issued, r.issueEvents t, none⟩ := by
  obtain ⟨earlier, rfl⟩ := Nat.exists_eq_add_of_le' hpolled
  rw [loadDropped_of_queued t earlier hq, if_neg (by omega)]

/-- A load that is polled once more than its transport waits is the whole load. -/
theorem loadDropped_of_answered (t : Transport) (hq : r.state = .queued) {polls : Nat}
    (h : t.delay < polls) : r.loadDropped t polls = (r.load t).map some := by
  obtain ⟨earlier, rfl⟩ := Nat.exists_eq_add_of_lt h
  rw [loadDropped_of_queued t _ hq, if_pos (by omega)]

/-- A load that is awaited and one that blocks, on a thread of its own or among several, have
the same outcome, whatever the transport answers and however long it takes. A load that is
dropped leaves the request alone without a poll, makes it pending while it waits, and is that
same load as soon as it is polled more often than it has to wait. -/
theorem load_however_driven (r : Request ι) (t : Transport) (delay : Nat) :
    r.load (t.delayed delay) = r.load t ∧
    r.loadBlocking .outside (t.delayed delay) = r.load t ∧
    r.loadBlocking .multiThread (t.delayed delay) = r.load t ∧
    (r.state = .queued → ∀ polls,
      let dropped := r.loadDropped (t.delayed delay) polls
      (polls = 0 → dropped = ⟨r, [], none⟩) ∧
      (1 ≤ polls → polls ≤ delay →
        dropped.request = { r with state := .pending } ∧ dropped.result = none ∧
        callsOf dropped.events = [r.url] ∧ answersOf (some t) dropped.events = [] ∧
        deliveriesOf dropped.events = []) ∧
      (delay < polls → dropped = (r.load t).map some)) := by
  have hload : r.load (t.delayed delay) = r.load t := load_congr rfl rfl
  have hblocking : ∀ caller : Caller, caller.refusal? = none →
      r.loadBlocking caller (t.delayed delay) = r.load t := by
    intro caller hcaller
    rw [loadBlocking_of_refusal?_none hcaller, hload]
  refine ⟨hload, hblocking .outside rfl, hblocking .multiThread rfl, ?_⟩
  intro hq polls dropped
  refine ⟨?_, ?_, ?_⟩
  · rintro rfl
    rfl
  · intro hpolled hwaits
    have hdropped : dropped = ⟨r.issued, r.issueEvents t, none⟩ :=
      loadDropped_of_waiting (t.delayed delay) hq hpolled hwaits
    rw [hdropped]
    exact ⟨rfl, rfl, callsOf_issueEvents t r, answersOf_issueEvents t r,
      deliveriesOf_issueEvents t r⟩
  · intro hanswered
    have hdropped : dropped = (r.load (t.delayed delay)).map some :=
      loadDropped_of_answered (t.delayed delay) hq hanswered
    rw [hdropped, hload]

end Request

end Isochrone
