import Isochrone.Proofs.Request.Representation
import Isochrone.Stub

/-!
# Drives with nothing to fetch

A request that is not queued has no fetch left to drive: it may not load at all, or its fetch
was issued, or its refusal recorded, before. A load says which of the two it is and leaves the
request alone. A blocking load says the same wherever the calling thread can be blocked.
Elsewhere the thread is looked at before the request, so a load is refused as one that would
block although it has nothing to wait for.
-/

namespace Isochrone

variable {ι : Type}

namespace Request

variable {r : Request ι}

/-- What a drive has to say where there is nothing to fetch: nothing if the request may not load,
and otherwise that its one fetch was issued before. -/
def nothingToFetch (r : Request ι) : LoadResult :=
  if r.options.load then .error r.refusal else .ok ()

/-- A load of a request that is not queued says so, and does nothing. -/
theorem load_of_not_queued {p : QueryParameters} {c : Cutoffs} {o : LoadOptions}
    {answers : List (Except TransportError Json.Value)} (h : Sound p c o answers r)
    (hq : r.state ≠ .queued) (t : Transport) :
    (r.load t).result = r.nothingToFetch ∧ (r.load t).request = r ∧
      callsOf (r.load t).events = [] := by
  by_cases hi : r.state = .idle
  · have hload : r.options.load = false := by
      rw [h.options]
      exact h.idle_iff.mp hi
    rw [load_of_idle t hi, nothingToFetch, hload]
    exact ⟨rfl, rfl, rfl⟩
  · have hload : r.options.load = true := by
      rw [h.options]
      exact Bool.of_not_eq_false (mt h.idle_iff.mpr hi)
    rw [load_of_refused t hi hq, nothingToFetch, hload]
    exact ⟨rfl, rfl, rfl⟩

/-- The refusal of a thread says nothing about the request. -/
theorem refusal?_ne_nothingToFetch {caller : Caller} {cause : LoadError}
    (h : caller.refusal? = some cause) (r : Request ι) : .error cause ≠ r.nothingToFetch := by
  rw [nothingToFetch, refusal]
  cases caller with
  | outside => cases h
  | multiThread => cases h
  | currentThread =>
    obtain rfl := Option.some.inj h
    split <;> simp
  | unequipped detail =>
    obtain rfl := Option.some.inj h
    split <;> simp

/-- A load is never refused as one that would block its thread. -/
theorem nothingToFetch_ne_blocking (r : Request ι) :
    r.nothingToFetch ≠ .error .blockingInCurrentThread := by
  rw [nothingToFetch, refusal]
  split <;> simp

end Request

namespace History

/-- Where there is nothing to fetch, a load and a blocking load say so alike and change nothing,
exactly if the thread of the blocking load can be blocked. On the only thread of an executor, and
nowhere else, it is refused as one that would block. -/
theorem answers_alike_iff (h : History ι) (hq : h.request.state ≠ .queued) (caller : Caller)
    (t : Transport) :
    let awaited := h.request.load t
    let blocking := h.request.loadBlocking caller t
    let answer : LoadResult :=
      if h.options.load then .error (.alreadyIssued h.request.url.toString) else .ok ()
    awaited.result = answer ∧
    (blocking.result = answer ↔ caller.refusal? = none) ∧
    (blocking.result = .error .blockingInCurrentThread ↔ caller = .currentThread) ∧
    awaited.request = h.request ∧ blocking.request = h.request ∧
    callsOf awaited.events = [] ∧ callsOf blocking.events = [] := by
  intro awaited blocking answer
  have hanswer : answer = h.request.nothingToFetch := by
    rw [Request.nothingToFetch, h.sound.options]
    rfl
  obtain ⟨hresult, hrequest, hcalls⟩ := Request.load_of_not_queued h.sound hq t
  rw [hanswer]
  cases hcaller : caller.refusal? with
  | none =>
    have hblocking : blocking = awaited := Request.loadBlocking_of_refusal?_none hcaller t h.request
    have hthread : caller ≠ .currentThread := by
      rintro rfl
      cases hcaller
    have hresult' : awaited.result ≠ .error .blockingInCurrentThread := by
      rw [hresult]
      exact h.request.nothingToFetch_ne_blocking
    rw [hblocking]
    exact ⟨hresult, iff_of_true hresult rfl, iff_of_false hresult' hthread, hrequest, hrequest,
      hcalls, hcalls⟩
  | some cause =>
    have hblocking : blocking = ⟨h.request, [], .error cause⟩ :=
      Request.loadBlocking_of_refusal?_some hcaller t h.request
    have hthread : (Except.error cause : LoadResult) = .error .blockingInCurrentThread ↔
        caller = .currentThread := by
      cases caller with
      | outside => cases hcaller
      | multiThread => cases hcaller
      | currentThread =>
        obtain rfl := Option.some.inj hcaller
        simp
      | unequipped detail =>
        obtain rfl := Option.some.inj hcaller
        simp
    rw [hblocking]
    exact ⟨hresult, iff_of_false (Request.refusal?_ne_nothingToFetch hcaller h.request) nofun,
      hthread, hrequest, rfl, hcalls, rfl⟩

/-- A request that was opened on the only thread of an executor, which is recorded as its
failure. -/
def openedOnOnlyThread : History Unit :=
  ⟨.openWith .currentThread (Stub.ofCutoffs 0 [300]), .empty, ⟨[300]⟩, ⟨true, false⟩, []⟩

/-- A failed request is refused as issued before on one of several threads, but on an only thread
as one that would block. -/
theorem answers_alike_iff_openedOnOnlyThread :
    let r := openedOnOnlyThread.request
    let issued : LoadResult := .error (.alreadyIssued r.url.toString)
    r.state ≠ .queued ∧ (r.load (Stub.ofCutoffs 0 [300])).result = issued ∧
      (r.loadBlocking .multiThread (Stub.ofCutoffs 0 [300])).result = issued ∧
      (r.loadBlocking .currentThread (Stub.ofCutoffs 0 [300])).result ≠ issued := by
  have hq : openedOnOnlyThread.request.state ≠ .queued := by
    have hstate : openedOnOnlyThread.request.state = .failed .blockingInCurrentThread := rfl
    rw [hstate]
    exact nofun
  have hmany := answers_alike_iff openedOnOnlyThread hq .multiThread (Stub.ofCutoffs 0 [300])
  have honly := answers_alike_iff openedOnOnlyThread hq .currentThread (Stub.ofCutoffs 0 [300])
  refine ⟨hq, hmany.1, hmany.2.1.mpr rfl, ?_⟩
  intro hsame
  cases honly.2.1.mp hsame

/-- A request that may not load. -/
def disabled : History Unit := ⟨.new, .empty, ⟨[300]⟩, ⟨false, true⟩, []⟩

/-- A request that never loads has nothing to block for, and is refused all the same on the only
thread of an executor. -/
theorem disabled_refused_on_only_thread :
    disabled.request.state = .idle ∧
    (disabled.request.load (Stub.ofCutoffs 0 [300])).result = .ok () ∧
    (disabled.request.loadBlocking .currentThread (Stub.ofCutoffs 0 [300])).result =
      .error .blockingInCurrentThread := by
  have hidle : disabled.request.state = .idle := rfl
  refine ⟨hidle, ?_, rfl⟩
  rw [Request.load_of_idle _ hidle]

end History

end Isochrone
