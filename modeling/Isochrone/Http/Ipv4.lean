import Isochrone.Text.Hex
import Isochrone.Text.Pieces

/-!
# Host numbers of 32 bits

Up to four numbers between dots, each decimal, octal after a leading zero or hexadecimal after
`0x`: all but the last fill one byte, and the last fills the bytes that are left.
-/

namespace Isochrone.Http.Ipv4

/-- The value of digits in a base, if all of them are digits of that base. -/
def value? (base : Nat) (digits : List Char) : Option Nat :=
  digits.foldlM (fun n c => do
    let d ← Text.hexValue? c
    if d < base then some (n * base + d) else none) 0

/-- The value of one number; hexadecimal without digits is zero. -/
def number? : List Char → Option Nat
  | [] => none
  | '0' :: 'x' :: digits => value? 16 digits
  | '0' :: c :: digits => value? 8 (c :: digits)
  | digits => value? 10 digits

/-- The parts of a name in small letters; one dot at the end is left out. -/
def parts (name : List Char) : List (List Char) :=
  let parts := Text.pieces '.' name
  if parts.getLast? = some [] then parts.dropLast else parts

/-- Whether a name can only be meant as a host number: its last part is made of digits or is a
number. -/
def isMeant (name : List Char) : Bool :=
  match (parts name).getLast? with
  | some last => (!last.isEmpty && last.all Char.isDigit) || (number? last).isSome
  | none => false

/-- What numbers give that are to fill some bytes. -/
def assemble? : Nat → List Nat → Option Nat
  | 0, _ => none
  | _, [] => none
  | room + 1, [last] => if last < 1 <<< (8 * (room + 1)) then some last else none
  | room + 1, byte :: rest => do
    let tail ← assemble? room rest
    if byte < 0x100 then some (byte <<< (8 * room) + tail) else none

/-- The host number of a name. -/
def parse? (name : List Char) : Option Nat := do
  assemble? 4 (← (parts name).mapM number?)

/-- A host number as four bytes in decimal. -/
def text (address : Nat) : String :=
  ".".intercalate ([24, 16, 8, 0].map fun shift => ((address >>> shift) % 0x100).repr)

end Isochrone.Http.Ipv4
