import Isochrone.Json.Token
import Isochrone.Json.Value

/-!
# JSON documents as a reader meets them

A document is what a text or a value presents, in the order in which a reader meets it:
repeated members stay, a literal that can be skipped but not read carries its fault, and
where a text stops being JSON the document breaks off. A reader that goes through a document
in order therefore reports whichever problem comes first.
-/

namespace Isochrone.Json

/-- The brackets around an array or object. -/
structure Brackets where
  /-- Whether more than 127 brackets are open here, which no reader enters. -/
  tooDeep : Bool
  /-- How the text departs from the closing bracket, if it does. -/
  broken : Option Break
  deriving DecidableEq, Repr

/-- Brackets without a fault. -/
def Brackets.sound : Brackets := ⟨false, none⟩

/-- What a text or value presents to a reader. -/
inductive Document where
  | null
  | bool (b : Bool)
  | number (n : Except Fault Number)
  | string (s : Except Fault String)
  | array (brackets : Brackets) (items : List Document)
  | object (brackets : Brackets) (members : List (Except Fault String × Document))
  /-- The text breaks off where a value should stand. -/
  | broken (place : Break)
  deriving Inhabited

namespace Document

mutual

/-- The document a value presents. -/
def ofValue : Value → Document
  | .null => .null
  | .bool b => .bool b
  | .number n => .number (.ok n)
  | .string s => .string (.ok s)
  | .array items => .array .sound (ofItems items)
  | .object members => .object .sound (ofMembers members)

/-- The documents of the items of an array. -/
def ofItems : List Value → List Document
  | [] => []
  | item :: rest => ofValue item :: ofItems rest

/-- The documents of the members of an object. -/
def ofMembers : List (String × Value) → List (Except Fault String × Document)
  | [] => []
  | (key, value) :: rest => (.ok key, ofValue value) :: ofMembers rest

end

/-- Enter brackets, unless they are too deep. -/
def enter (b : Brackets) : Except Fault Unit :=
  if b.tooDeep then .error .malformed else .ok ()

/-- Leave brackets, unless the text departs from their end. -/
def leave (b : Brackets) : Except Fault Unit :=
  match b.broken with
  | some place => .error place.whenRead
  | none => .ok ()

mutual

/-- The value of a document, in canonical form, or the first fault. -/
def read : Document → Except Fault Value
  | .null => .ok .null
  | .bool b => .ok (.bool b)
  | .number n => n.map .number
  | .string s => s.map .string
  | .array brackets items => do
    enter brackets
    let values ← readItems items
    leave brackets
    return .array values
  | .object brackets members => do
    enter brackets
    let values ← readMembers members
    leave brackets
    return .ofMap (.ofList values)
  | .broken place => .error place.whenRead

/-- The values of the items of an array. -/
def readItems : List Document → Except Fault (List Value)
  | [] => .ok []
  | item :: rest => do
    let value ← read item
    let values ← readItems rest
    return value :: values

/-- The keys and values of the members of an object. -/
def readMembers : List (Except Fault String × Document) →
    Except Fault (List (String × Value))
  | [] => .ok []
  | (key, item) :: rest => do
    let key ← key
    let value ← read item
    let values ← readMembers rest
    return (key, value) :: values

end

/-- Pass over the end of an array or object. -/
def skipEnd (b : Brackets) : Except Fault Unit :=
  match b.broken with
  | some place => .error place.whenSkipped
  | none => .ok ()

mutual

/-- Pass over a document, checking only that it is JSON. -/
def skip : Document → Except Fault Unit
  | .array brackets items => do
    skipItems items
    skipEnd brackets
  | .object brackets members => do
    skipMembers members
    skipEnd brackets
  | .broken place => .error place.whenSkipped
  | .null => .ok ()
  | .bool _ => .ok ()
  | .number _ => .ok ()
  | .string _ => .ok ()

/-- Pass over the items of an array. -/
def skipItems : List Document → Except Fault Unit
  | [] => .ok ()
  | item :: rest => do
    skip item
    skipItems rest

/-- Pass over the members of an object. -/
def skipMembers : List (Except Fault String × Document) → Except Fault Unit
  | [] => .ok ()
  | (_, item) :: rest => do
    skip item
    skipMembers rest

end

/-- An array or object that is still open. -/
inductive Level where
  /-- An array with the items met so far, the latest first. -/
  | array (tooDeep : Bool) (items : List Document)
  /-- An object with the members met so far, the latest first. -/
  | object (tooDeep : Bool) (members : List (Except Fault String × Document))
  /-- An object whose latest key still lacks its value. -/
  | member (tooDeep : Bool) (members : List (Except Fault String × Document))
    (key : Except Fault String)

/-- What may come next in a text. -/
inductive Slot where
  | value
  /-- A value, or the end of an array. -/
  | firstItem
  | key
  /-- A key, or the end of an object. -/
  | firstKey
  | colon (key : Except Fault String)
  /-- A comma, or the end of the innermost array or object. -/
  | separator
  deriving Repr

/-- How far a text has been gone through; the open levels are listed from the inside. -/
inductive Progress where
  | expecting (slot : Slot) (levels : List Level)
  | finished (root : Document)
  /-- Something follows the document. -/
  | trailing (root : Document)
  /-- The text has stopped being JSON. -/
  | stopped (root : Document)

/-- The number of brackets that may be open at once. -/
def maxDepth : Nat := 127

/-- Put a complete document in its place. -/
def place (d : Document) : List Level → Progress
  | [] => .finished d
  | .array deep items :: levels => .expecting .separator (.array deep (d :: items) :: levels)
  | .member deep members key :: levels =>
    .expecting .separator (.object deep ((key, d) :: members) :: levels)
  | .object deep members :: levels =>
    .expecting .separator (.object deep members :: levels)

/-- Close all levels around a document that breaks off. -/
def abandon (d : Document) : List Level → Document
  | [] => d
  | .array deep items :: levels =>
    abandon (.array ⟨deep, none⟩ (d :: items).reverse) levels
  | .member deep members key :: levels =>
    abandon (.object ⟨deep, none⟩ ((key, d) :: members).reverse) levels
  | .object deep members :: levels => abandon (.object ⟨deep, none⟩ members.reverse) levels

/-- Stop at a place where something else should stand. -/
def stop (b : Break) : Slot → List Level → Document
  | .key, .object deep members :: levels
  | .firstKey, .object deep members :: levels
  | .separator, .object deep members :: levels =>
    abandon (.object ⟨deep, some b⟩ members.reverse) levels
  | .separator, .array deep items :: levels =>
    abandon (.array ⟨deep, some b⟩ items.reverse) levels
  | .colon key, .object deep members :: levels =>
    abandon (.broken b) (.member deep members key :: levels)
  | _, levels => abandon (.broken b) levels

/-- Take a token where a value may stand. -/
def takeValue (token : Token) (levels : List Level) : Progress :=
  let deep := decide (maxDepth ≤ levels.length)
  match token with
  | .null => place .null levels
  | .bool b => place (.bool b) levels
  | .number literal => place (.number (literal.number?.elim (.error .malformed) .ok)) levels
  | .string content => place (.string content) levels
  | .openArray => .expecting .firstItem (.array deep [] :: levels)
  | .openObject => .expecting .firstKey (.object deep [] :: levels)
  | .broken _ b => .stopped (stop b .value levels)
  | _ => .stopped (stop Fault.malformed.break .value levels)

/-- Take a token where a key must stand. -/
def takeKey (token : Token) (levels : List Level) : Progress :=
  match token with
  | .string content => .expecting (.colon content) levels
  | .broken true b => .stopped (stop b .key levels)
  | _ => .stopped (stop Fault.malformed.break .key levels)

/-- Take the next token. -/
def step : Progress → Token → Progress
  | .expecting .value levels, token => takeValue token levels
  | .expecting .firstItem (.array deep items :: levels), .closeArray =>
    place (.array ⟨deep, none⟩ items.reverse) levels
  | .expecting .firstItem levels, token => takeValue token levels
  | .expecting .firstKey (.object deep members :: levels), .closeObject =>
    place (.object ⟨deep, none⟩ members.reverse) levels
  | .expecting .firstKey levels, token => takeKey token levels
  | .expecting .key levels, token => takeKey token levels
  | .expecting (.colon key) (.object deep members :: levels), .colon =>
    .expecting .value (.member deep members key :: levels)
  | .expecting .separator (.array deep items :: levels), .closeArray =>
    place (.array ⟨deep, none⟩ items.reverse) levels
  | .expecting .separator (.array deep items :: levels), .comma =>
    .expecting .value (.array deep items :: levels)
  | .expecting .separator (.object deep members :: levels), .closeObject =>
    place (.object ⟨deep, none⟩ members.reverse) levels
  | .expecting .separator (.object deep members :: levels), .comma =>
    .expecting .key (.object deep members :: levels)
  | .expecting slot levels, _ => .stopped (stop Fault.malformed.break slot levels)
  | .finished root, _ => .trailing root
  | .trailing root, _ => .trailing root
  | .stopped root, _ => .stopped root

/-- What a whole text presents: its document, and whether something follows it. -/
structure Presented where
  root : Document
  trailing : Bool

/-- What the text presents if it ends here. -/
def Progress.presented : Progress → Presented
  | .expecting slot levels => ⟨stop Fault.unfinished.break slot levels, false⟩
  | .finished root => ⟨root, false⟩
  | .trailing root => ⟨root, true⟩
  | .stopped root => ⟨root, false⟩

/-- The document of a list of tokens. -/
def ofTokens (tokens : List Token) : Presented :=
  (tokens.foldl step (.expecting .value [])).presented

/-- The document of a text. -/
def ofText (text : String) : Presented := ofTokens (Token.scan text.toList)

end Document

end Isochrone.Json
