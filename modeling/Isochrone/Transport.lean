import Isochrone.Log

/-!
# Transports

A transport answers a request URL with a JSON document or an error. It may have to be asked
again a number of times before its answer is there.
-/

namespace Isochrone

open Json (Value)

/-- A way to fetch documents. -/
structure Transport where
  /-- How often the answer is not yet there when it is asked for. -/
  delay : Nat
  /-- What the transport notes when it is called. -/
  notes : RequestUrl → List LogLine
  /-- The answer, once it is there. -/
  answer : RequestUrl → Except TransportError Value

namespace Transport

/-- A transport that answers every request with the same document or error. -/
def fixed (answer : Except TransportError Value) (delay : Nat) : Transport :=
  ⟨delay, fun _ => [], fun _ => answer⟩

/-- Fetch the features of a URL: the answer must be a response, and its features must have
cutoffs. The warnings of the indexing come with the outcome. -/
def fetchFeatures (t : Transport) (url : RequestUrl) :
    List RepeatedCutoff × Except LoadError FeatureIndex :=
  match t.answer url with
  | .error e => ([], .error (.transport e))
  | .ok body =>
    match Reading.ofValue Response.decode body with
    | .error problem => ([], .error (.malformedResponse url.toString problem.message))
    | .ok response =>
      let indexing := FeatureIndex.ofResponse response
      (indexing.warnings, indexing.outcome.mapError .feature)

end Transport

end Isochrone
