import Isochrone.Json.Document
import Isochrone.Reading.Problem

/-!
# Decoders

A decoder goes through a document in order and reports the first problem. The same decoder
reads a text and a value, since both present a document. A record is read from an object by
the names of its members, or from an array by their positions; members it does not know are
skipped.
-/

namespace Isochrone.Reading

open Json

/-- A way to read a value of a type from a document. -/
abbrev Decoder (α : Type) := Document → Except Problem α

/-- A fault of the text as a problem. -/
def ofFault {α : Type} : Except Fault α → Except Problem α
  | .ok a => .ok a
  | .error f => .error (.notJson f)

/-- What stands in a document; the inside of arrays and objects is not looked at. -/
def found : Document → Except Fault Found
  | .null => .ok .null
  | .bool b => .ok (.bool b)
  | .number n => n.map fun
    | .integer n _ => .integer n
    | .real x => .real x
  | .string s => s.map .string
  | .array _ _ => .ok .sequence
  | .object _ _ => .ok .map
  | .broken place => .error place.whenRead

/-- Refuse a document of the wrong kind. -/
def refuse {α : Type} (wanted : Wanted) (d : Document) : Except Problem α := do
  let it ← ofFault (found d)
  .error (.unsuitable (.kind it wanted))

/-- Read any value. -/
def value : Decoder Value := fun d => ofFault d.read

/-- Read a boolean. -/
def boolean : Decoder Bool
  | .bool b => .ok b
  | d => refuse .boolean d

/-- Read a natural number below `2 ^ 32`; a number with a point or exponent is none. -/
def number32 : Decoder UInt32
  | .number (.ok (.integer n _)) =>
    if 0 ≤ n ∧ n < 0x100000000 then .ok (UInt32.ofNat n.toNat)
    else .error (.unsuitable (.range n .number32))
  | d => refuse .number32 d

/-- Read what may be absent; null means that it is. -/
def optional {α : Type} (decode : Decoder α) : Decoder (Option α)
  | .null => .ok none
  | d => some <$> decode d

/-- Read the items of an array one after another. -/
def items {α : Type} (decode : Decoder α) : List Document → Except Problem (List α)
  | [] => .ok []
  | d :: rest => do
    let a ← decode d
    let as ← items decode rest
    return a :: as

/-- Read an array of any length. -/
def list {α : Type} (decode : Decoder α) : Decoder (List α)
  | .array brackets ds => do
    ofFault (Document.enter brackets)
    let as ← items decode ds
    ofFault (Document.leave brackets)
    return as
  | d => refuse .sequence d

/-- Read the members of an object one after another. -/
def pairs {α : Type} (decode : Decoder α) :
    List (Except Fault String × Document) → Except Problem (List (String × α))
  | [] => .ok []
  | (key, d) :: rest => do
    let key ← ofFault key
    let a ← decode d
    let as ← pairs decode rest
    return (key, a) :: as

/-- Read an object of any members; the last of a repeated key stays. -/
def map {α : Type} (decode : Decoder α) : Decoder (SortedMap String α)
  | .object brackets members => do
    ofFault (Document.enter brackets)
    let as ← pairs decode members
    ofFault (Document.leave brackets)
    return .ofList as
  | d => refuse .map d

/-- A record of type `σ`. -/
structure Record (σ : Type) where
  /-- The name of the record in reports. -/
  name : String
  /-- The fields in order, with whether they have no default. -/
  fields : List (String × Bool)
  /-- The record whose fields all have their defaults. -/
  default : σ
  /-- Read a field into the record. -/
  set : String → Document → σ → Except Problem σ

namespace Record

variable {σ : Type}

/-- Read the members of an object that are fields, each at most once, and skip the others;
the names met are kept. -/
def readMembers (r : Record σ) (met : List String) :
    List (Except Fault String × Document) → σ → Except Problem (List String × σ)
  | [], s => .ok (met, s)
  | (key, d) :: rest, s => do
    let key ← ofFault key
    if (r.fields.map (·.1)).contains key then
      if met.contains key then .error (.unsuitable (.duplicateField key))
      else do
        let s ← r.set key d s
        readMembers r (key :: met) rest s
    else do
      ofFault d.skip
      readMembers r met rest s

/-- Read the items of an array into the fields in turn; `count` items there are in all. -/
def readItems (r : Record σ) (count : Nat) :
    List (String × Bool) → List Document → σ → Except Problem σ
  | _, [], s => .ok s
  | [], _ :: _, _ => .error (.unsuitable (.tooMany count))
  | field :: fields, d :: rest, s => do
    let s ← r.set field.1 d s
    readItems r count fields rest s

/-- Read a record. -/
def decode (r : Record σ) : Decoder σ
  | .object brackets members => do
    ofFault (Document.enter brackets)
    let (met, s) ← r.readMembers [] members r.default
    ofFault (Document.leave brackets)
    match r.fields.find? fun field => field.2 && !met.contains field.1 with
    | some field => .error (.unsuitable (.missingField field.1))
    | none => .ok s
  | .array brackets ds => do
    ofFault (Document.enter brackets)
    let s ← r.readItems ds.length r.fields ds r.default
    ofFault (Document.leave brackets)
    match (r.fields.drop ds.length).find? (·.2) with
    | some _ => .error (.unsuitable (.tooFew ds.length r.name r.fields.length))
    | none => .ok s
  | d => refuse (.record r.name) d

end Record

/-- Read a value. -/
def ofValue {α : Type} (decode : Decoder α) (v : Value) : Except Problem α :=
  decode (.ofValue v)

/-- Read a text; what follows the document is noticed last. -/
def ofText {α : Type} (decode : Decoder α) (text : String) : Except Problem α :=
  let presented := Document.ofText text
  match decode presented.root with
  | .error problem => .error problem.inText
  | .ok a => if presented.trailing then .error (.notJson .malformed) else .ok a

/-- The value of bytes that are one document in UTF-8. -/
def valueOfBytes? (bytes : ByteArray) : Option Value :=
  (String.fromUTF8? bytes).bind fun text => (ofText value text).toOption

end Isochrone.Reading
