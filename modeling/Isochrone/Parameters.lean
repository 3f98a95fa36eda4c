import Isochrone.Form
import Isochrone.Reading.Decoder

/-!
# Query parameters

Named primitive values that are passed on to the routing service. They are kept sorted by
name, so that equal parameters have one query string; a later value of a name replaces an
earlier one.
-/

namespace Isochrone

open Json (Value)

/-- Whether an integer fits 64 bits with a sign. -/
def FitsSigned64 (n : Int) : Prop := -0x8000000000000000 ≤ n ∧ n < 0x8000000000000000

instance (n : Int) : Decidable (FitsSigned64 n) := inferInstanceAs (Decidable (_ ∧ _))

/-- A primitive value of a parameter. -/
inductive ParamValue where
  | bool (b : Bool)
  | integer (n : Int) (fits : FitsSigned64 n)
  | float (x : Binary64)
  | text (s : String)
  deriving DecidableEq, Repr

namespace ParamValue

/-- The value of a 32-bit number. -/
def ofUInt32 (n : UInt32) : ParamValue :=
  .integer n.toNat (by have := n.toNat_lt; unfold FitsSigned64; omega)

/-- The text that stands in a query. -/
def display : ParamValue → String
  | .bool true => "true"
  | .bool false => "false"
  | .integer n _ => toString n
  | .float x => x.text
  | .text s => s

/-- Equality of values, with floats compared as numbers. -/
def numEq : ParamValue → ParamValue → Bool
  | .float x, .float y => x.numEq y
  | a, b => a = b

/-- Read a flag. -/
def bool? : Value → Option ParamValue
  | .bool b => some (.bool b)
  | _ => none

/-- Read an integer that fits 64 bits with a sign. -/
def integer? : Value → Option ParamValue
  | .number (.integer n _) => if fits : FitsSigned64 n then some (.integer n fits) else none
  | _ => none

/-- Read any number, rounded to a float. -/
def float? : Value → Option ParamValue
  | .number n => some (.float n.toBinary64)
  | _ => none

/-- Read a text. -/
def text? : Value → Option ParamValue
  | .string s => some (.text s)
  | _ => none

/-- The value of a JSON value, in the first of the four kinds in which it can be read. -/
def ofJson? (v : Value) : Option ParamValue := [bool?, integer?, float?, text?].findSome? (· v)

/-- Read a value; the whole document is read before its kind is looked at. -/
def decode : Reading.Decoder ParamValue := fun d => do
  match ofJson? (← Reading.value d) with
  | some v => return v
  | none => .error (.unsuitable .noParameterValue)

/-- The JSON form; floats that are not finite become null. -/
def toJson : ParamValue → Value
  | .bool b => .bool b
  | .integer n fits => .number (.integer n (by
      unfold FitsSigned64 at fits
      unfold Json.Fits64
      omega))
  | .float x => .ofBinary64 x
  | .text s => .string s

end ParamValue

/-- The parameters of a query, sorted by name. -/
structure QueryParameters where
  toMap : SortedMap String ParamValue

namespace QueryParameters

/-- The name of the parameter that names the router. -/
def routerKey : String := "routerId"

/-- The router of a query that names none. -/
def defaultRouter : String := "default"

/-- No parameters. -/
def empty : QueryParameters := ⟨.empty⟩

instance : Inhabited QueryParameters := ⟨empty⟩

/-- The parameters in the order of their names. -/
def toList (p : QueryParameters) : List (String × ParamValue) := p.toMap.entries

/-- The value of a parameter. -/
def get? (p : QueryParameters) (key : String) : Option ParamValue := p.toMap.get? key

/-- The number of parameters. -/
def size (p : QueryParameters) : Nat := p.toMap.size

/-- Whether there are no parameters. -/
def isEmpty (p : QueryParameters) : Bool := p.toMap.isEmpty

/-- Set a parameter, over an earlier value. -/
def insert (p : QueryParameters) (key : String) (value : ParamValue) : QueryParameters :=
  ⟨p.toMap.insert key value⟩

/-- Set parameters one after another. -/
def insertAll (p : QueryParameters) (pairs : List (String × ParamValue)) : QueryParameters :=
  pairs.foldl (fun p pair => p.insert pair.1 pair.2) p

/-- The parameters of a list of pairs; the last value of a repeated name stays. -/
def ofList (pairs : List (String × ParamValue)) : QueryParameters := ⟨.collect pairs⟩

/-- Name the router that is to answer. -/
def withRouter (p : QueryParameters) (id : String) : QueryParameters :=
  p.insert routerKey (.text id)

/-- Set the origin to a latitude and longitude. -/
def withOrigin (p : QueryParameters) (latitude longitude : Binary64) : QueryParameters :=
  p.insert "fromPlace" (.text (latitude.text ++ "," ++ longitude.text))

/-- Set the modes of travel. -/
def withMode (p : QueryParameters) (mode : String) : QueryParameters :=
  p.insert "mode" (.text mode)

/-- Set the date of departure. -/
def withDate (p : QueryParameters) (date : String) : QueryParameters :=
  p.insert "date" (.text date)

/-- Set the time of departure. -/
def withTime (p : QueryParameters) (time : String) : QueryParameters :=
  p.insert "time" (.text time)

/-- The router that is to answer: the one named, or the default where the name is absent or
an empty text. -/
def router (p : QueryParameters) : String :=
  match p.get? routerKey with
  | none => defaultRouter
  | some (.text id) => if id.isEmpty then defaultRouter else id
  | some value => value.display

/-- The names and the texts of the values, in the order of the names. -/
def pairs (p : QueryParameters) : List (String × String) :=
  p.toList.map fun entry => (entry.1, entry.2.display)

/-- All parameters as form-encoded pairs. -/
def query (p : QueryParameters) : String := Form.encode p.pairs

/-- Whether two sets hold the same names with equal values. -/
def numEq (p q : QueryParameters) : Bool :=
  p.size = q.size &&
    (p.toList.zip q.toList).all fun (a, b) => a.1 = b.1 && a.2.numEq b.2

/-- Read parameters from an object. -/
def decode : Reading.Decoder QueryParameters := fun d =>
  QueryParameters.mk <$> Reading.map ParamValue.decode d

/-- The JSON form. -/
def toJson (p : QueryParameters) : Value :=
  .object (p.toList.map fun entry => (entry.1, entry.2.toJson))

end QueryParameters

/-- A call that changes parameters. -/
inductive Update where
  | insert (key : String) (value : ParamValue)
  | router (id : String)
  | origin (latitude longitude : Binary64)
  | mode (value : String)
  | date (value : String)
  | time (value : String)
  | insertAll (pairs : List (String × ParamValue))
  /-- The parameters are given up for those of a list of pairs. -/
  | collect (pairs : List (String × ParamValue))

/-- The parameters after a call. -/
def Update.apply (p : QueryParameters) : Update → QueryParameters
  | .insert key value => p.insert key value
  | .router id => p.withRouter id
  | .origin latitude longitude => p.withOrigin latitude longitude
  | .mode value => p.withMode value
  | .date value => p.withDate value
  | .time value => p.withTime value
  | .insertAll pairs => p.insertAll pairs
  | .collect pairs => .ofList pairs

/-- The parameters that calls leave, starting from none. -/
def QueryParameters.ofUpdates (updates : List Update) : QueryParameters :=
  updates.foldl Update.apply .empty

end Isochrone
