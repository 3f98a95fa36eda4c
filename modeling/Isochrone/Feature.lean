import Isochrone.Error
import Isochrone.Geometry
import Isochrone.Text.Blank

/-!
# Isochrone features

One area of a response. Its travel time stands among its properties under `Time` or `time`,
the first of the two that is not null, and is a whole number of seconds: an integer, a float
that equals one, or a text that spells one.
-/

namespace Isochrone

open Json (Value)

/-- One isochrone of a response. -/
structure Feature where
  /-- The identifier, any JSON value but null. -/
  id : Option Value
  /-- The area. -/
  geometry : Option Geometry
  /-- The properties, which hold the travel time. -/
  properties : SortedMap String Value

/-- The 32-bit number that a natural number is, if it fits. -/
def seconds? (n : Nat) : Option UInt32 :=
  if n < 0x100000000 then some (UInt32.ofNat n) else none

/-- The number that a text of decimal digits spells, if it is below `2 ^ 32`; one plus sign
may stand before the digits. -/
def parseSeconds? (cs : List Char) : Option UInt32 :=
  let digits := match cs with
    | '+' :: rest => rest
    | cs => cs
  if digits.isEmpty || !digits.all Char.isDigit then none
  else seconds? (Binary64.digitsValue digits)

/-- The seconds of a float: it is taken if it is whole and in the range of 32 bits. -/
def floatSeconds? (x : Binary64) : Option UInt32 :=
  (x.finite?.filter fun x => x.isWhole && x.isUpTo 0xffffffff).map Binary64.Finite.toUInt32

/-- The whole number of seconds that a JSON value stands for. -/
def wholeSeconds? : Value → Option UInt32
  | .number number =>
    match number.natural? with
    | some n => seconds? n
    | none => floatSeconds? number.toBinary64
  | .string s => parseSeconds? (Text.trim s.toList)
  | _ => none

namespace Feature

/-- The preferred name of the time property. -/
def timeKey : String := "Time"

/-- The other name of the time property. -/
def lowerTimeKey : String := "time"

/-- The feature without identifier, area and properties. -/
def empty : Feature := ⟨none, none, .empty⟩

instance : Inhabited Feature := ⟨empty⟩

/-- The time property as it stands; null counts as absent. -/
def timeValue? (f : Feature) : Option Value :=
  [timeKey, lowerTimeKey].findSome? fun key =>
    (f.properties.get? key).filter fun v => !v.isNull

/-- The travel time in seconds, if there is a usable one. -/
def cutoff? (f : Feature) : Option UInt32 := f.timeValue?.bind wholeSeconds?

/-- The travel time of the feature at a position of a response, or why it has none. -/
def cutoffAt (f : Feature) (position : Nat) : Except FeatureError UInt32 :=
  match f.timeValue? with
  | none => .error (.missingTime position)
  | some v =>
    match wholeSeconds? v with
    | some seconds => .ok seconds
    | none => .error (.invalidTime position v.text)

/-- How a feature is read. -/
def record : Reading.Record Feature where
  name := "IsochroneFeature"
  fields := [("id", false), ("geometry", false), ("properties", false)]
  default := empty
  set field d f := match field with
    | "id" => do return { f with id := ← Reading.optional Reading.value d }
    | "geometry" => do return { f with geometry := ← Reading.optional Geometry.decode d }
    | _ => do return { f with properties := ← Reading.map Reading.value d }

/-- Read a feature. -/
def decode : Reading.Decoder Feature := record.decode

/-- The area as JSON. -/
def geometryJson (f : Feature) : Value := f.geometry.elim .null Geometry.toJson

/-- The JSON form: the identifier if there is one, the area and the properties. -/
def toJson (f : Feature) : Value :=
  .object <| (f.id.map fun v => ("id", v)).toList ++
    [("geometry", f.geometryJson), ("properties", .ofMap f.properties)]

/-- The identifier as a map document admits it: a string or a number. -/
def plainId? (f : Feature) : Option Value :=
  f.id.filter fun
    | .string _ | .number _ => true
    | _ => false

/-- The form of the feature in a map document. -/
def toGeoJson (f : Feature) : Value :=
  .object <| [("type", .string "Feature"), ("geometry", f.geometryJson),
    ("properties", .ofMap f.properties)] ++ (f.plainId?.map fun v => ("id", v)).toList

end Feature

/-- A response: one feature per travel time that the service computed. -/
structure Response where
  features : List Feature
  deriving Inhabited

namespace Response

/-- How a response is read. -/
def record : Reading.Record Response where
  name := "IsochroneResponse"
  fields := [("features", true)]
  default := ⟨[]⟩
  set _ d _ := Response.mk <$> Reading.list Feature.decode d

/-- Read a response. -/
def decode : Reading.Decoder Response := record.decode

end Response

end Isochrone
