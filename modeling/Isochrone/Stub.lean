import Isochrone.Request.Basic

/-!
# Stub transports

Transports for tests, which answer from made-up features and record what they
answer. A made-up feature is a square whose side grows with its travel time.
-/

namespace Isochrone

open Json (Value)

namespace Stub

/-- A feature whose travel time stands under `key`. -/
def feature (key : String) (seconds : UInt32) : Value :=
  let extent := Value.ofBinary64 (.ofRatio false seconds.toNat 3600)
  let zero := Value.ofBinary64 (.finite (.zero false))
  let corner (x y : Value) : Value := .array [x, y]
  .object [
    ("type", .string "Feature"),
    ("geometry", .object [
      ("type", .string "MultiPolygon"),
      ("coordinates", .array [.array [.array [corner zero zero, corner extent zero,
        corner extent extent, corner zero extent, corner zero zero]]])]),
    ("properties", .object [(key, .ofUInt32 seconds)])]

/-- The document of features. -/
def collection (features : List Value) : Value :=
  .object [("type", .string "FeatureCollection"), ("features", .array features)]

/-- A transport that answers with a document. -/
def ofBody (delay : Nat) (body : Value) : Transport := .fixed (.ok body) delay

/-- A transport that answers with features. -/
def ofFeatures (delay : Nat) (features : List Value) : Transport :=
  ofBody delay (collection features)

/-- A transport that answers with one feature per travel time. -/
def ofCutoffs (delay : Nat) (cutoffs : List UInt32) : Transport :=
  ofFeatures delay (cutoffs.map (feature Feature.timeKey))

/-- A transport that fails. -/
def ofError (delay : Nat) (cause : TransportError) : Transport := .fixed (.error cause) delay

end Stub

variable {ι : Type}

/-- The URL that a stub records at an event; it does so where it answers. -/
def Event.record? : Event ι → Option RequestUrl
  | .answered url => some url
  | _ => none

/-- The URLs that a stub records. -/
def recordsOf (events : List (Event ι)) : List RequestUrl := events.filterMap Event.record?

end Isochrone
