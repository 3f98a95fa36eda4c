import Isochrone.Json.Token
import Isochrone.Json.Value
import Isochrone.Text.Quoted

/-!
# Problems met in reading

A document is not JSON at all, or it is JSON that does not suit what is read from it. The
second kind says what stands where something else is wanted, and has a text for people.
-/

namespace Isochrone.Reading

open Json (Fault Value)

/-- What stands in a document. -/
inductive Found where
  | null
  | bool (b : Bool)
  | integer (n : Int)
  | real (x : Binary64.Finite)
  | string (s : String)
  | sequence
  | map
  deriving DecidableEq, Repr

/-- What a reader wants. -/
inductive Wanted where
  /-- A natural number below `2 ^ 32`. -/
  | number32
  | boolean
  | sequence
  | map
  /-- A record of fixed fields. -/
  | record (name : String)
  deriving DecidableEq, Repr

/-- What keeps an object from being a geometry. -/
inductive GeometryProblem where
  | bboxNotArray (v : Value)
  | bboxNotNumeric
  | missingMember (name : String)
  | typeNotString (v : Value)
  | unknownType (name : String)
  | coordinatesNotArray
  | shortPosition (length : Nat)
  | coordinateNotNumber
  | geometriesNotArray (v : Value)
  | geometryNotObject (v : Value)

/-- Why a JSON document does not suit. -/
inductive Mismatch where
  | kind (found : Found) (wanted : Wanted)
  | range (value : Int) (wanted : Wanted)
  | missingField (name : String)
  | duplicateField (name : String)
  /-- An array ends before a field that has no default. -/
  | tooFew (length : Nat) (record : String) (size : Nat)
  /-- An array holds more than the fields of a record. -/
  | tooMany (length : Nat)
  /-- Neither boolean, number nor string stands where a parameter value is wanted. -/
  | noParameterValue
  | geometry (cause : GeometryProblem)

/-- Why nothing could be read. -/
inductive Problem where
  | notJson (fault : Fault)
  | unsuitable (cause : Mismatch)

namespace Found

/-- The text of what is found. -/
def text : Found → String
  | .null => "null"
  | .bool true => "boolean `true`"
  | .bool false => "boolean `false`"
  | .integer n => "integer `" ++ toString n ++ "`"
  | .real x => "floating point `" ++ String.ofList (Layout.json.finite x) ++ "`"
  | .string s => "string " ++ Text.quoted s
  | .sequence => "sequence"
  | .map => "map"

end Found

/-- The text of what is wanted. -/
def Wanted.text : Wanted → String
  | .number32 => "u32"
  | .boolean => "a boolean"
  | .sequence => "a sequence"
  | .map => "a map"
  | .record name => "struct " ++ name

/-- The kind of a value, as reports name it. -/
def kindName : Value → String
  | .null => "Null"
  | .bool _ => "Bool"
  | .number _ => "Number"
  | .string _ => "String"
  | .array _ => "Array"
  | .object _ => "Object"

/-- The text of what is wrong with a geometry. -/
def GeometryProblem.message : GeometryProblem → String
  | .bboxNotArray v => "Encountered non-array value for a 'bbox' object: `" ++ v.text ++ "`"
  | .bboxNotNumeric => "Encountered non-numeric value within 'bbox' array"
  | .missingMember name => "Expected a GeoJSON property for `" ++ name ++ "`, but got None"
  | .typeNotString v => "Expected a String value, but got a `" ++ v.text ++ "`"
  | .unknownType name => "Encountered an unknown 'geometry' object type: `" ++ name ++ "`"
  | .coordinatesNotArray => "Expected an Array value, but got `None`"
  | .shortPosition n =>
    "A position must contain two or more elements, but got `" ++ toString n ++ "`"
  | .coordinateNotNumber => "Expected a floating-point value, but got None"
  | .geometriesNotArray v => "Expected an Array value, but got `" ++ kindName v ++ "`"
  | .geometryNotObject v => "Expected an owned Object, but got `" ++ v.text ++ "`"

/-- The text of why a document does not suit. -/
def Mismatch.message : Mismatch → String
  | .kind found wanted => "invalid type: " ++ found.text ++ ", expected " ++ wanted.text
  | .range value wanted =>
    "invalid value: integer `" ++ toString value ++ "`, expected " ++ wanted.text
  | .missingField name => "missing field `" ++ name ++ "`"
  | .duplicateField name => "duplicate field `" ++ name ++ "`"
  | .tooFew length record size =>
    "invalid length " ++ toString length ++ ", expected struct " ++ record ++ " with " ++
      toString size ++ if size = 1 then " element" else " elements"
  | .tooMany length =>
    "invalid length " ++ toString length ++ ", expected fewer elements in array"
  | .noParameterValue => "data did not match any variant of untagged enum ParamValue"
  | .geometry cause => cause.message

/-- The text of why nothing could be read. -/
def Problem.message : Problem → String
  | .notJson .malformed => "malformed JSON"
  | .notJson .unfinished => "unfinished JSON"
  | .unsuitable cause => cause.message

/-- In a text, what exceeds the fields of a record is misplaced rather than unsuitable. -/
def Problem.inText : Problem → Problem
  | .unsuitable (.tooMany _) => .notJson .malformed
  | problem => problem

end Isochrone.Reading
