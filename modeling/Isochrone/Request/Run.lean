import Isochrone.Request.Load

/-!
# Runs of a request

The operations a caller can perform on a request after its construction, and what a sequence
of them comes to. Each drive of a load brings its own transport.
-/

namespace Isochrone

/-- An operation on a request. -/
inductive Operation (ι : Type) where
  | onLoad (listener : ι)
  | load (transport : Transport)
  | loadBlocking (caller : Caller) (transport : Transport)
  /-- A load that is polled a number of times and then dropped. -/
  | loadDropped (polls : Nat) (transport : Transport)

/-- How a request comes into being. -/
inductive Construction where
  | new
  | openWith (caller : Caller) (transport : Transport)

namespace Request

variable {ι : Type}

/-- Perform an operation; its result is absent for a registration and for a load that was
dropped before it was ready. -/
def perform (r : Request ι) : Operation ι → Outcome ι (Option LoadResult)
  | .onLoad listener => { r.onLoad listener with result := none }
  | .load t => let done := r.load t; { done with result := some done.result }
  | .loadBlocking caller t =>
    let done := r.loadBlocking caller t
    { done with result := some done.result }
  | .loadDropped polls t => r.loadDropped t polls

/-- Construct a request. -/
def construct (how : Construction) (parameters : QueryParameters) (cutoffs : Cutoffs)
    (options : LoadOptions) : Outcome ι Unit :=
  match how with
  | .new => build parameters cutoffs options
  | .openWith caller t => openWith caller t parameters cutoffs options

/-- Perform operations one after another; the results are listed in order. -/
def performAll (r : Request ι) : List (Operation ι) → Outcome ι (List (Option LoadResult))
  | [] => ⟨r, [], []⟩
  | operation :: rest =>
    let first := r.perform operation
    let later := first.request.performAll rest
    ⟨later.request, first.events ++ later.events, first.result :: later.result⟩

end Request

end Isochrone
