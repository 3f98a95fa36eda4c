import Isochrone.Number.Layout
import Isochrone.Number.Reading

/-!
# JSON numbers

A number is an integer of the 64-bit range, signed or unsigned, or a finite binary64
number; `300` and `300.0` differ. A literal is an integer if it has neither point nor
exponent and fits; minus zero and every other literal is a binary64 number.
-/

namespace Isochrone.Json

/-- Whether an integer fits 64 bits, signed or unsigned. -/
def Fits64 (n : Int) : Prop := -0x8000000000000000 ≤ n ∧ n < 0x10000000000000000

instance (n : Int) : Decidable (Fits64 n) := inferInstanceAs (Decidable (_ ∧ _))

/-- A JSON number. -/
inductive Number where
  | integer (value : Int) (fits : Fits64 value)
  | real (value : Binary64.Finite)
  deriving DecidableEq, Repr

namespace Number

/-- The integer number of a 32-bit value. -/
def ofUInt32 (n : UInt32) : Number :=
  .integer n.toNat (by have := n.toNat_lt; unfold Fits64; omega)

/-- The text of a number. -/
def chars : Number → List Char
  | .integer n _ => (if n < 0 then ['-'] else []) ++ Nat.toDigits 10 n.natAbs
  | .real x => Layout.json.finite x

/-- The natural number, if it is one of the integers. -/
def natural? : Number → Option Nat
  | .integer n _ => if 0 ≤ n then some n.toNat else none
  | .real _ => none

/-- The binary64 number nearest to a number. -/
def toBinary64 : Number → Binary64
  | .integer n _ => Binary64.ofInt n
  | .real x => .finite x

end Number

/-- A number as it is spelt. -/
structure Literal where
  /-- Whether it starts with a minus sign. -/
  negative : Bool
  /-- The digits before the point. -/
  whole : List Char
  /-- The digits after the point, if there is one. -/
  fraction : Option (List Char)
  /-- The power of ten, if one is written. -/
  exponent : Option Int
  deriving DecidableEq, Repr

namespace Literal

/-- Let digits join a significand while it stays below `2 ^ 64`; the rest is left over. -/
def absorb (significand : Nat) : List Char → Nat × List Char
  | [] => (significand, [])
  | c :: rest =>
    let next := 10 * significand + (c.toNat - '0'.toNat)
    if next < 0x10000000000000000 then absorb next rest else (significand, c :: rest)

/-- The value as a binary64 number. Digits before the point that the significand cannot
hold raise the power of ten; those behind the point are dropped. -/
def toBinary64 (l : Literal) : Binary64 :=
  let (significand, excess) := absorb 0 l.whole
  let fraction := l.fraction.getD []
  let (significand, dropped) := absorb significand fraction
  let shift : Int := excess.length - (fraction.length - dropped.length : Nat)
  Binary64.ofScaled l.negative significand (shift + l.exponent.getD 0)

/-- The integer a literal without point and exponent denotes, minus zero excepted. -/
def integer? (l : Literal) : Option Int :=
  match l.fraction, l.exponent with
  | none, none =>
    let n := Binary64.digitsValue l.whole
    if l.negative then if n = 0 then none else some (-n) else some n
  | _, _ => none

/-- The number a literal denotes; one beyond the largest binary64 number denotes none. -/
def number? (l : Literal) : Option Number :=
  let real := l.toBinary64.finite?.map Number.real
  match l.integer? with
  | some n => if h : Fits64 n then some (.integer n h) else real
  | none => real

end Literal

end Isochrone.Json
