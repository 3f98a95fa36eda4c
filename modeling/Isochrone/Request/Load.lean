import Isochrone.Request.Basic

/-!
# Loading a request

A load is polled until it is ready. Its first poll decides whether anything is fetched: only
a queued request calls its transport, and is pending from then on. Once the answer is there
the request is loaded or failed. A load that is dropped before leaves the request as its last
poll did.
-/

namespace Isochrone

/-- A load between polls. -/
inductive Load where
  /-- The load has not been polled. -/
  | fresh
  /-- The transport has been called, and will let `left` more polls pass. -/
  | waiting (left : Nat)
  deriving DecidableEq, Repr

/-- How many polls a load lets pass at most. -/
def Load.left (t : Transport) : Load → Nat
  | .fresh => t.delay + 1
  | .waiting left => left

/-- What a load comes to. -/
abbrev LoadResult := Except LoadError Unit

/-- The answer to a poll. -/
inductive Poll where
  | notReady (load : Load)
  | ready (result : LoadResult)

/-- Where a blocking load is called from. -/
inductive Caller where
  /-- A thread without an executor. -/
  | outside
  /-- A thread without an executor, where setting one up fails as `detail` says. -/
  | unequipped (detail : String)
  /-- The only thread of an executor, which must not be blocked. -/
  | currentThread
  /-- One of several threads of an executor. -/
  | multiThread
  deriving DecidableEq, Repr

namespace Request

variable {ι : Type}

/-- Take the answer of the transport. -/
def settle (t : Transport) (r : Request ι) : Outcome ι LoadResult :=
  let (warnings, outcome) := t.fetchFeatures r.url
  let before : List (Event ι) :=
    .answered r.url :: warnings.map fun warning => .note (.repeated warning)
  match outcome with
  | .ok features =>
    let done := r.complete features
    ⟨done.request, before ++ done.events, .ok ()⟩
  | .error e =>
    ⟨{ r with state := .failed e }, before ++ [.note (.loadFailed r.url e)], .error e⟩

/-- Poll a load whose transport has been called. -/
def await (t : Transport) (left : Nat) (r : Request ι) : Outcome ι Poll :=
  match left with
  | 0 =>
    let done := r.settle t
    ⟨done.request, done.events, .ready done.result⟩
  | left + 1 => ⟨r, [], .notReady (.waiting left)⟩

/-- Poll a load. -/
def poll (t : Transport) (load : Load) (r : Request ι) : Outcome ι Poll :=
  match load with
  | .waiting left => r.await t left
  | .fresh =>
    match r.state with
    | .idle => ⟨r, [.note (.loadingDisabled r.url)], .ready (.ok ())⟩
    | .queued =>
      let called : List (Event ι) :=
        .note (.fetching r.url) :: .asked r.url :: (t.notes r.url).map .note
      ({ r with state := .pending }.await t t.delay).after called
    | .pending | .loaded | .failed _ =>
      ⟨r, [], .ready (.error (.alreadyIssued r.url.toString))⟩

/-- A poll that is not ready leaves fewer polls to wait for. -/
theorem left_of_poll_notReady {t : Transport} {load next : Load} {r : Request ι}
    (h : (r.poll t load).result = .notReady next) : next.left t < load.left t := by
  have hawait : ∀ (n : Nat) (r : Request ι), (r.await t n).result = .notReady next →
      next.left t < n := by
    intro n r h
    cases n with
    | zero => simp [await] at h
    | succ n =>
      simp only [await, Poll.notReady.injEq] at h
      subst h
      exact Nat.lt_succ_self n
  cases load with
  | waiting n => exact hawait n r h
  | fresh =>
    cases hs : r.state with
    | queued =>
      simp only [poll, hs, Outcome.after] at h
      exact Nat.lt_succ_of_lt (hawait t.delay _ h)
    | _ => simp [poll, hs] at h

/-- Poll a load until it is ready. -/
def drive (t : Transport) (load : Load) (r : Request ι) : Outcome ι LoadResult :=
  match h : (r.poll t load).result with
  | .ready result => ⟨(r.poll t load).request, (r.poll t load).events, result⟩
  | .notReady next =>
    have := left_of_poll_notReady h
    ((r.poll t load).request.drive t next).after (r.poll t load).events
termination_by load.left t

/-- Poll a load at most `polls` times; without a result it is dropped. -/
def driveFor (t : Transport) (polls : Nat) (load : Load) (r : Request ι) :
    Outcome ι (Option LoadResult) :=
  match polls with
  | 0 => ⟨r, [], none⟩
  | polls + 1 =>
    let polled := r.poll t load
    match polled.result with
    | .ready result => ⟨polled.request, polled.events, some result⟩
    | .notReady next => (polled.request.driveFor t polls next).after polled.events

/-- Load and wait for the end. -/
def load (t : Transport) (r : Request ι) : Outcome ι LoadResult := r.drive t .fresh

/-- Load, but give up after a number of polls. -/
def loadDropped (t : Transport) (polls : Nat) (r : Request ι) :
    Outcome ι (Option LoadResult) :=
  r.driveFor t polls .fresh

/-- Block the calling thread until a load is ready: on one of several threads, its executor
polls the load meanwhile, and elsewhere an executor is set up to poll it. On the only thread of
an executor, and where none can be set up, this is refused and the load is not polled. -/
def blockOn (caller : Caller) (t : Transport) (load : Load) (r : Request ι) :
    Outcome ι (Except LoadError LoadResult) :=
  match caller with
  | .multiThread => (r.drive t load).map .ok
  | .currentThread => ⟨r, [], .error .blockingInCurrentThread⟩
  | .unequipped detail => ⟨r, [], .error (.runtime detail)⟩
  | .outside => (r.drive t load).map .ok

/-- Load and block the calling thread until the end; a refusal to block is the result then. -/
def loadBlocking (caller : Caller) (t : Transport) (r : Request ι) : Outcome ι LoadResult :=
  (r.blockOn caller t .fresh).map fun
    | .ok result => result
    | .error refusal => .error refusal

/-- Record the refusal of a load that was not issued. -/
def failUnissued (r : Request ι) (cause : LoadError) : Outcome ι Unit :=
  match r.state with
  | .queued => ⟨{ r with state := .failed cause }, [.note (.notLoaded r.url cause)], ()⟩
  | _ => ⟨r, [], ()⟩

/-- Build a request and, if it may load but not asynchronously, load it at once; a refusal
is recorded as its failure. -/
def openWith (caller : Caller) (t : Transport) (parameters : QueryParameters)
    (cutoffs : Cutoffs) (options : LoadOptions) : Outcome ι Unit :=
  let built : Outcome ι Unit := build parameters cutoffs options
  if options.load && !options.asynchronous then
    let loaded := built.request.loadBlocking caller t
    let events := built.events ++ loaded.events
    match loaded.result with
    | .ok () => ⟨loaded.request, events, ()⟩
    | .error cause => (loaded.request.failUnissued cause).after events
  else built

end Request

end Isochrone
