import Isochrone.SortedMap
import Isochrone.Json.Number

/-!
# JSON values

A value holds the members of an object in the order they are written. Its compact text has
no blanks; its canonical form has the members of every object sorted by key, the last of a
repeated key kept. A generic document is always held in canonical form.
-/

namespace Isochrone.Json

/-- A JSON value. -/
inductive Value where
  | null
  | bool (b : Bool)
  | number (n : Number)
  | string (s : String)
  | array (items : List Value)
  | object (members : List (String × Value))
  deriving Repr, Inhabited

namespace Value

/-- The two lower-case hexadecimal digits of a number below 256. -/
def hexByte (n : Nat) : List Char := [Nat.digitChar (n / 16), Nat.digitChar (n % 16)]

/-- A character inside a string literal: quote, backslash and the control characters are
escaped, and nothing else. -/
def escapeChar (c : Char) : List Char :=
  match c with
  | '"' => ['\\', '"']
  | '\\' => ['\\', '\\']
  | '\x08' => ['\\', 'b']
  | '\x0c' => ['\\', 'f']
  | '\n' => ['\\', 'n']
  | '\r' => ['\\', 'r']
  | '\t' => ['\\', 't']
  | c => if c.toNat < 0x20 then ['\\', 'u', '0', '0'] ++ hexByte c.toNat else [c]

/-- A string literal. -/
def stringChars (s : String) : List Char := '"' :: s.toList.flatMap escapeChar ++ ['"']

mutual

/-- The compact text of a value. -/
def chars : Value → List Char
  | .null => "null".toList
  | .bool true => "true".toList
  | .bool false => "false".toList
  | .number n => n.chars
  | .string s => stringChars s
  | .array [] => ['[', ']']
  | .array (item :: rest) => '[' :: (chars item ++ itemChars rest)
  | .object [] => ['\x7b', '\x7d']
  | .object ((key, value) :: rest) =>
    '\x7b' :: (stringChars key ++ ':' :: (chars value ++ memberChars rest))

/-- The later items of an array, each after a comma, and its end. -/
def itemChars : List Value → List Char
  | [] => [']']
  | item :: rest => ',' :: (chars item ++ itemChars rest)

/-- The later members of an object, each after a comma, and its end. -/
def memberChars : List (String × Value) → List Char
  | [] => ['\x7d']
  | (key, value) :: rest =>
    ',' :: (stringChars key ++ ':' :: (chars value ++ memberChars rest))

end

/-- The compact text of a value as a string. -/
def text (v : Value) : String := String.ofList v.chars

/-- The object of a sorted map. -/
def ofMap (members : SortedMap String Value) : Value := .object members.entries

mutual

/-- The canonical form: the members of every object sorted by key, the last of a repeated
key kept. -/
def sorted : Value → Value
  | .array items => .array (sortedItems items)
  | .object members => ofMap (SortedMap.ofList (sortedMembers members))
  | .null => .null
  | .bool b => .bool b
  | .number n => .number n
  | .string s => .string s

/-- The canonical form of each item. -/
def sortedItems : List Value → List Value
  | [] => []
  | item :: rest => sorted item :: sortedItems rest

/-- The canonical form of each member's value. -/
def sortedMembers : List (String × Value) → List (String × Value)
  | [] => []
  | (key, value) :: rest => (key, sorted value) :: sortedMembers rest

end

/-- A natural number of at most 64 bits. -/
def ofNat (n : Nat) (h : n < 0x10000000000000000) : Value :=
  .number (.integer n (by unfold Fits64; omega))

/-- A 32-bit number. -/
def ofUInt32 (n : UInt32) : Value := .number (.ofUInt32 n)

/-- A binary64 number; infinities and `nan` have no JSON form and become null. -/
def ofBinary64 : Binary64 → Value
  | .finite x => .number (.real x)
  | _ => .null

/-- Whether a value is null. -/
def isNull : Value → Bool
  | .null => true
  | _ => false

/-- The member of an object under a key. -/
def member? (key : String) : Value → Option Value
  | .object members => SortedMap.lookupEntry key members
  | _ => none

end Value

end Isochrone.Json
