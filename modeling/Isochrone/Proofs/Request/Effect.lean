import Isochrone.Proofs.Request.Polling
import Isochrone.Request.Run

/-!
# What an operation does

Every operation does one of six things to a request: nothing but notes, queue a listener, call
a listener at once, issue the fetch and leave it pending, or issue the fetch and take its
answer, which is an index or a failure. The relation `Effect` lists them with the states in
which they occur and all the events they show, so that what holds along runs is proved by its
cases. Opening a request adds one more: a refused load is recorded as a failure.
-/

namespace Isochrone

variable {ι : Type}

namespace Operation

/-- The listener that an operation registers. -/
def listener? : Operation ι → Option ι
  | .onLoad listener => some listener
  | _ => none

/-- The transport that an operation brings. -/
def transport? : Operation ι → Option Transport
  | .onLoad _ => none
  | .load t | .loadBlocking _ t | .loadDropped _ t => some t

theorem listener?_eq_none {operation : Operation ι} {t : Transport}
    (h : operation.transport? = some t) : operation.listener? = none := by
  cases operation with
  | onLoad listener => cases h
  | _ => rfl

end Operation

/-- The transport that a construction brings. -/
def Construction.transport? : Construction → Option Transport
  | .new => none
  | .openWith _ t => some t

/-- Why a blocking load is refused to a caller, if its thread cannot be blocked. -/
def Caller.refusal? : Caller → Option LoadError
  | .outside | .multiThread => none
  | .currentThread => some .blockingInCurrentThread
  | .unequipped detail => some (.runtime detail)

namespace Request

/-- What an operation makes of the request `r`, with the events it shows. -/
inductive Effect (r : Request ι) : Operation ι → Request ι → List (Event ι) → Prop
  /-- Nothing is done, though notes may be taken. -/
  | quiet {operation} (hop : operation.listener? = none) (lines : List LogLine) :
      Effect r operation r (lines.map .note)
  /-- A listener is queued. -/
  | queue (listener : ι) (hs : r.state ≠ .loaded) :
      Effect r (.onLoad listener) { r with listeners := r.listeners ++ [listener] } []
  /-- A listener is called at once. -/
  | call (listener : ι) (hs : r.state = .loaded) :
      Effect r (.onLoad listener) r [.heard listener r]
  /-- The fetch is issued and given up before its answer. -/
  | abandon {operation t} (hop : operation.transport? = some t) (hs : r.state = .queued) :
      Effect r operation r.issued (r.issueEvents t)
  /-- The fetch is issued and its answer indexed. -/
  | index {operation t} (hop : operation.transport? = some t) (hs : r.state = .queued)
      {warnings features} (hf : t.fetchFeatures r.url = (warnings, .ok features)) :
      Effect r operation (r.issued.complete features).request
        (r.issueEvents t ++ (r.answerEvents warnings ++ (r.issued.complete features).events))
  /-- The fetch is issued and fails. -/
  | fail {operation t} (hop : operation.transport? = some t) (hs : r.state = .queued)
      {warnings cause} (hf : t.fetchFeatures r.url = (warnings, .error cause)) :
      Effect r operation { r with state := .failed cause }
        (r.issueEvents t ++ (r.answerEvents warnings ++ [.note (.loadFailed r.url cause)]))

/-- A whole load, whichever operation drives it. -/
theorem load_effect (r : Request ι) {operation : Operation ι} {t : Transport}
    (hop : operation.transport? = some t) :
    Effect r operation (r.load t).request (r.load t).events := by
  have hnone := Operation.listener?_eq_none hop
  by_cases hq : r.state = .queued
  · rcases hf : t.fetchFeatures r.url with ⟨warnings, cause | features⟩
    · rw [load_of_failed hq hf]
      exact .fail hop hq hf
    · rw [load_of_indexed hq hf]
      exact .index hop hq hf
  · by_cases hi : r.state = .idle
    · rw [load_of_idle t hi]
      exact .quiet hnone [.loadingDisabled r.url]
    · rw [load_of_refused t hi hq]
      exact .quiet hnone []

/-- Every operation has one of the six effects. -/
theorem perform_effect (r : Request ι) (operation : Operation ι) :
    Effect r operation (r.perform operation).request (r.perform operation).events := by
  cases operation with
  | onLoad listener =>
    by_cases hs : r.state = .loaded
    · simp only [perform, onLoad, hs, LoadState.isLoaded]
      exact .call listener hs
    · have hl : r.state.isLoaded = false := by
        cases h : r.state with
        | loaded => exact absurd h hs
        | _ => rfl
      simp only [perform, onLoad, hl]
      exact .queue listener hs
  | load t => exact load_effect r rfl
  | loadBlocking caller t =>
    cases caller with
    | outside => exact load_effect r rfl
    | multiThread => exact load_effect r rfl
    | currentThread => exact .quiet rfl []
    | unequipped detail => exact .quiet rfl []
  | loadDropped polls t =>
    have hload : Effect r (.loadDropped polls t) (r.load t).request (r.load t).events :=
      load_effect r rfl
    cases polls with
    | zero => exact .quiet rfl []
    | succ polls =>
      by_cases hq : r.state = .queued
      · simp only [perform, loadDropped_of_queued t polls hq]
        split
        · rw [Outcome.request_map, Outcome.events_map]
          exact hload
        · exact .abandon rfl hq
      · simp only [perform, loadDropped_of_not_queued t polls hq, Outcome.request_map,
          Outcome.events_map]
        exact hload

/-- Only the poll of a queued request changes its load state. -/
theorem Effect.state_eq {r r' : Request ι} {operation : Operation ι} {events : List (Event ι)}
    (h : Effect r operation r' events) (hq : r.state ≠ .queued) : r'.state = r.state := by
  cases h with
  | quiet hop lines => rfl
  | queue listener hs => rfl
  | call listener hs => rfl
  | abandon hop hs => exact absurd hs hq
  | index hop hs hf => exact absurd hs hq
  | fail hop hs hf => exact absurd hs hq

theorem state_performAll_of_ne_queued {r : Request ι} (hq : r.state ≠ .queued)
    (operations : List (Operation ι)) :
    (r.performAll operations).request.state = r.state := by
  induction operations generalizing r with
  | nil => rfl
  | cons operation rest ih =>
    have hstate := (perform_effect r operation).state_eq hq
    rw [performAll, ih (hstate ▸ hq), hstate]

/-- A loaded request is left as it is. -/
theorem Effect.eq_of_loaded {r r' : Request ι} {operation : Operation ι}
    {events : List (Event ι)} (h : Effect r operation r' events) (hs : r.state = .loaded) :
    r' = r := by
  cases h with
  | quiet hop lines => rfl
  | queue listener hne => exact absurd hs hne
  | call listener hl => rfl
  | abandon hop hq => rw [hs] at hq; cases hq
  | index hop hq hf => rw [hs] at hq; cases hq
  | fail hop hq hf => rw [hs] at hq; cases hq

theorem performAll_of_loaded {r : Request ι} (hs : r.state = .loaded)
    (operations : List (Operation ι)) : (r.performAll operations).request = r := by
  induction operations with
  | nil => rfl
  | cons operation rest ih =>
    have hr : (r.perform operation).request = r :=
      (perform_effect r operation).eq_of_loaded hs
    simp only [performAll, hr, ih]

/-- What a construction makes of the new request `r`, with the events it shows. -/
inductive Opening (r : Request ι) (how : Construction) : Request ι → List (Event ι) → Prop
  /-- The request is built and left as it is. -/
  | built : Opening r how r [.note (.built r.url)]
  /-- The request is built and loaded. -/
  | driven {operation t request events} (hhow : how.transport? = some t)
      (hop : operation.transport? = some t) (he : Effect r operation request events) :
      Opening r how request (.note (.built r.url) :: events)
  /-- The request is built, and the refusal to load it is recorded. -/
  | refused (hhow : how ≠ .new) (hs : r.state = .queued) (cause : LoadError) :
      Opening r how { r with state := .failed cause }
        [.note (.built r.url), .note (.notLoaded r.url cause)]

theorem new_state (p : QueryParameters) (c : Cutoffs) (o : LoadOptions) :
    (new p c o : Request ι).state = if o.load then .queued else .idle := rfl

/-- A load of a queued request ends loaded or failed. -/
theorem load_settles (t : Transport) {r : Request ι} (hq : r.state = .queued) :
    (r.load t).request.state = .loaded ∨ ∃ cause, (r.load t).request.state = .failed cause := by
  rcases hf : t.fetchFeatures r.url with ⟨warnings, cause | features⟩
  · rw [load_of_failed hq hf]
    exact Or.inr ⟨cause, rfl⟩
  · rw [load_of_indexed hq hf]
    exact Or.inl rfl

/-- A load that was issued is not refused afterwards. -/
theorem load_state_ne_queued (t : Transport) {r : Request ι} (h : r.state = .queued) :
    (r.load t).request.state ≠ .queued := by
  rcases load_settles t h with hl | ⟨cause, hf⟩
  · simp [hl]
  · simp [hf]

theorem failUnissued_of_ne {r : Request ι} (h : r.state ≠ .queued) (cause : LoadError) :
    r.failUnissued cause = ⟨r, [], ()⟩ := by
  cases hs : r.state with
  | queued => exact absurd hs h
  | _ => simp only [failUnissued, hs]

theorem failUnissued_of_queued {r : Request ι} (h : r.state = .queued) (cause : LoadError) :
    r.failUnissued cause =
      ⟨{ r with state := .failed cause }, [.note (.notLoaded r.url cause)], ()⟩ := by
  simp only [failUnissued, h]

/-- A thread that can be blocked is blocked until the load has been driven to its end. -/
theorem blockOn_of_refusal?_none {caller : Caller} (h : caller.refusal? = none) (t : Transport)
    (load : Load) (r : Request ι) : r.blockOn caller t load = (r.drive t load).map .ok := by
  cases caller with
  | outside => rfl
  | multiThread => rfl
  | currentThread => cases h
  | unequipped detail => cases h

/-- A thread that cannot be blocked leaves the load without a poll. -/
theorem blockOn_of_refusal?_some {caller : Caller} {cause : LoadError}
    (h : caller.refusal? = some cause) (t : Transport) (load : Load) (r : Request ι) :
    r.blockOn caller t load = ⟨r, [], .error cause⟩ := by
  cases caller with
  | outside => cases h
  | multiThread => cases h
  | currentThread =>
    obtain rfl := Option.some.inj h
    rfl
  | unequipped detail =>
    obtain rfl := Option.some.inj h
    rfl

/-- A caller whose thread can be blocked gets the whole load. -/
theorem loadBlocking_of_refusal?_none {caller : Caller} (h : caller.refusal? = none)
    (t : Transport) (r : Request ι) : r.loadBlocking caller t = r.load t := by
  rw [loadBlocking, blockOn_of_refusal?_none h]
  rfl

/-- Any other caller is refused before anything is done. -/
theorem loadBlocking_of_refusal?_some {caller : Caller} {cause : LoadError}
    (h : caller.refusal? = some cause) (t : Transport) (r : Request ι) :
    r.loadBlocking caller t = ⟨r, [], .error cause⟩ := by
  rw [loadBlocking, blockOn_of_refusal?_some h]
  rfl

section OpenWith

variable {o : LoadOptions}

theorem new_state_of_load (p : QueryParameters) (c : Cutoffs)
    (h : (o.load && !o.asynchronous) = true) : (new p c o : Request ι).state = .queued := by
  rw [new_state, if_pos (Bool.and_eq_true_iff.mp h).1]

/-- A request that is not to be loaded at once is built, and no transport is touched. -/
theorem openWith_of_later (caller : Caller) (t : Transport) (p : QueryParameters) (c : Cutoffs)
    (h : (o.load && !o.asynchronous) = false) :
    (openWith caller t p c o : Outcome ι Unit) = build p c o := by
  rw [openWith, h]
  rfl

/-- Where the thread can be blocked, the request is built and loaded, and an error stays as the
load has recorded it. -/
theorem openWith_of_driven {caller : Caller} (t : Transport) (p : QueryParameters) (c : Cutoffs)
    (h : (o.load && !o.asynchronous) = true) (hcaller : caller.refusal? = none) :
    (openWith caller t p c o : Outcome ι Unit) =
      ⟨((new p c o).load t).request,
        .note (.built (.build p c)) :: ((new p c o).load t).events, ()⟩ := by
  have hq : (new p c o : Request ι).state = .queued := new_state_of_load p c h
  have hload := loadBlocking_of_refusal?_none hcaller t (new p c o : Request ι)
  simp only [openWith, build, h, if_true, hload]
  cases hresult : ((new p c o : Request ι).load t).result with
  | ok done => rfl
  | error cause =>
    simp only [failUnissued_of_ne (load_state_ne_queued t hq)]
    simp [Outcome.after, new]

/-- Elsewhere the request is built, and the refusal is recorded as its failure. -/
theorem openWith_of_refused {caller : Caller} {cause : LoadError} (t : Transport)
    (p : QueryParameters) (c : Cutoffs) (h : (o.load && !o.asynchronous) = true)
    (hcaller : caller.refusal? = some cause) :
    (openWith caller t p c o : Outcome ι Unit) =
      ⟨{ new p c o with state := .failed cause },
        [.note (.built (.build p c)), .note (.notLoaded (.build p c) cause)], ()⟩ := by
  have hq : (new p c o : Request ι).state = .queued := new_state_of_load p c h
  have hload := loadBlocking_of_refusal?_some hcaller t (new p c o : Request ι)
  simp only [openWith, build, h, if_true, hload, failUnissued_of_queued hq]
  rfl

end OpenWith

/-- Opening builds a request and leaves it at that, or loads it while it is queued, or records
that this was refused. -/
theorem openWith_cases (caller : Caller) (t : Transport) (p : QueryParameters) (c : Cutoffs)
    (o : LoadOptions) :
    let r : Request ι := new p c o
    openWith caller t p c o = ⟨r, [.note (.built r.url)], ()⟩ ∨
      r.state = .queued ∧
        (openWith caller t p c o =
            ⟨(r.load t).request, .note (.built r.url) :: (r.load t).events, ()⟩ ∨
          ∃ cause, openWith caller t p c o = ⟨{ r with state := .failed cause },
            [.note (.built r.url), .note (.notLoaded r.url cause)], ()⟩) := by
  cases hnow : o.load && !o.asynchronous with
  | false => exact Or.inl (openWith_of_later caller t p c hnow)
  | true =>
    refine Or.inr ⟨new_state_of_load p c hnow, ?_⟩
    cases hcaller : caller.refusal? with
    | none => exact Or.inl (openWith_of_driven t p c hnow hcaller)
    | some cause => exact Or.inr ⟨cause, openWith_of_refused t p c hnow hcaller⟩

/-- Every construction opens a new request in one of the three ways. -/
theorem construct_opening (how : Construction) (p : QueryParameters) (c : Cutoffs)
    (o : LoadOptions) :
    Opening (new p c o : Request ι) how (construct how p c o).request
      (construct how p c o).events := by
  cases how with
  | new => exact .built
  | openWith caller t =>
    rw [construct]
    rcases openWith_cases caller t p c o with ho | ⟨hq, ho | ⟨cause, ho⟩⟩
    · rw [ho]
      exact .built
    · have heffect : Effect (new p c o : Request ι) (.load t) _ _ := load_effect _ rfl
      rw [ho]
      exact .driven rfl rfl heffect
    · rw [ho]
      exact .refused (by simp) hq cause

end Request

end Isochrone
