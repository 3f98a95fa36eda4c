import Isochrone.Feature

/-!
# Features by cutoff

The features of a response, found by their exact travel time. Of two features with the same
time the later one stays, and a warning names it; a feature without a usable time makes the
whole response fail.
-/

namespace Isochrone

open Json (Value)

/-- A warning that a later feature replaces an earlier one. -/
structure RepeatedCutoff where
  /-- The travel time that both have. -/
  seconds : UInt32
  /-- The position of the feature that stays. -/
  position : Nat
  deriving DecidableEq, Repr

/-- Features by travel time. -/
structure FeatureIndex where
  toMap : SortedMap UInt32 Feature

namespace FeatureIndex

/-- The index without features. -/
def empty : FeatureIndex := ⟨.empty⟩

instance : Inhabited FeatureIndex := ⟨empty⟩

/-- The feature of exactly `seconds`. -/
def get? (index : FeatureIndex) (seconds : UInt32) : Option Feature := index.toMap.get? seconds

/-- The number of features. -/
def size (index : FeatureIndex) : Nat := index.toMap.size

/-- Whether there are no features. -/
def isEmpty (index : FeatureIndex) : Bool := index.toMap.isEmpty

/-- The travel times in ascending order. -/
def cutoffs (index : FeatureIndex) : List UInt32 := index.toMap.keys

/-- The travel times with their features, in ascending order. -/
def toList (index : FeatureIndex) : List (UInt32 × Feature) := index.toMap.entries

/-- The index as a map document, the smallest travel time first. -/
def toGeoJson (index : FeatureIndex) : Value :=
  .object [("type", .string "FeatureCollection"),
    ("features", .array (index.toMap.values.map Feature.toGeoJson))]

/-- The outcome of indexing, with the warnings up to it. -/
structure Indexing where
  warnings : List RepeatedCutoff
  outcome : Except FeatureError FeatureIndex

/-- Index features from a position on, into an index of the earlier ones. -/
def addFrom (position : Nat) (index : FeatureIndex) : List Feature → Indexing
  | [] => ⟨[], .ok index⟩
  | f :: rest =>
    match f.cutoffAt position with
    | .error e => ⟨[], .error e⟩
    | .ok seconds =>
      let later := addFrom (position + 1) ⟨index.toMap.insert seconds f⟩ rest
      if index.toMap.contains seconds then
        { later with warnings := ⟨seconds, position⟩ :: later.warnings }
      else later

/-- Index the features of a response. -/
def ofResponse (response : Response) : Indexing := addFrom 0 empty response.features

end FeatureIndex

end Isochrone
