/-!
# Binary64 numbers, exactly

A finite binary64 number is a sign and a whole number of units of `2 ^ -1074`, the
smallest positive one. All arithmetic is done on these units as exact natural numbers
and rounded once, to the nearest number and in a tie to the even significand.
-/

namespace Isochrone

namespace Binary64

/-- A finite number: `± significand · 2 ^ exponent` units of `2 ^ -1074`. -/
structure Finite where
  /-- Whether the sign is minus; zero has both signs. -/
  negative : Bool
  /-- At most 53 bits, so below `2 ^ 53`. -/
  significand : Nat
  /-- The power of two, counted from the smallest. -/
  exponent : Nat
  significand_lt : significand < 0x20000000000000
  /-- The top bit, which is worth `2 ^ 52`, is set wherever the exponent could still be
  lowered. -/
  normal : exponent = 0 ∨ 0x10000000000000 ≤ significand
  exponent_le : exponent ≤ 2045
  deriving DecidableEq, Repr

end Binary64

/-- A binary64 number. -/
inductive Binary64 where
  | finite (x : Binary64.Finite)
  | infinite (negative : Bool)
  | nan
  deriving DecidableEq, Repr

namespace Binary64

/-- The units in one. -/
def one : Nat := 1 <<< 1074

namespace Finite

/-- The magnitude in units of `2 ^ -1074`. -/
def units (x : Finite) : Nat := x.significand <<< x.exponent

/-- Zero with a sign. -/
def zero (negative : Bool) : Finite :=
  ⟨negative, 0, 0, by decide, Or.inl rfl, by decide⟩

instance : Inhabited Finite := ⟨zero false⟩

/-- Whether the number is zero, of either sign. -/
def isZero (x : Finite) : Bool := x.significand = 0

/-- Whether nothing is behind the point. -/
def isWhole (x : Finite) : Bool := x.units % one = 0

/-- Whether the number is neither below zero nor above `last`; minus zero is not below. -/
def isUpTo (last : Nat) (x : Finite) : Bool :=
  (!x.negative || x.isZero) && x.units ≤ last * one

/-- What is before the point, as a 32-bit number; a number out of range becomes the end of the
range that it is beyond. -/
def toUInt32 (x : Finite) : UInt32 :=
  if x.negative then 0 else UInt32.ofNat (min (x.units / one) 0xffffffff)

end Finite

/-- The whole number nearest to `num / den`, in a tie the even one. -/
def roundHalfEven (num den : Nat) : Nat :=
  let floor := num / den
  let rest := num % den
  if 2 * rest < den then floor
  else if den < 2 * rest then floor + 1
  else floor + floor % 2

/-- The number with these parts, or infinity where they are out of range. -/
def assemble (negative : Bool) (significand exponent : Nat) : Binary64 :=
  if h : significand < 0x20000000000000 ∧ (exponent = 0 ∨ 0x10000000000000 ≤ significand) ∧
      exponent ≤ 2045 then
    .finite ⟨negative, significand, exponent, h.1, h.2.1, h.2.2⟩
  else .infinite negative

/-- The number nearest to `± num / den` units: the exponent leaves 53 bits before rounding,
and a significand rounded up to 54 bits moves to the next exponent. -/
def ofUnits (negative : Bool) (num den : Nat) : Binary64 :=
  let exponent := (num / den).log2 - 52
  let significand := roundHalfEven num (den <<< exponent)
  if significand = 0x20000000000000 then assemble negative 0x10000000000000 (exponent + 1)
  else assemble negative significand exponent

/-- The number nearest to `± num / den`. -/
def ofRatio (negative : Bool) (num den : Nat) : Binary64 := ofUnits negative (num * one) den

/-- The number nearest to an integer. -/
def ofInt (n : Int) : Binary64 := ofRatio (decide (n < 0)) n.natAbs 1

/-- The number nearest to `10 ^ e`. -/
def tenPow (e : Nat) : Binary64 := ofRatio false (Nat.pow 10 e) 1

/-- Whether the number is finite. -/
def isFinite : Binary64 → Bool
  | .finite _ => true
  | _ => false

/-- The finite number, if it is one. -/
def finite? : Binary64 → Option Finite
  | .finite x => some x
  | _ => none

/-- Numeric equality: both zeros are equal, and nothing equals `nan`. -/
def numEq : Binary64 → Binary64 → Bool
  | .finite x, .finite y => x = y || (x.isZero && y.isZero)
  | .infinite a, .infinite b => a = b
  | _, _ => false

/-- The product, rounded. -/
def Finite.mul (x y : Finite) : Binary64 :=
  ofUnits (x.negative != y.negative) (x.units * y.units) one

/-- The quotient by a number that is not zero, rounded. -/
def Finite.div (x y : Finite) : Binary64 :=
  ofRatio (x.negative != y.negative) x.units y.units

end Binary64

end Isochrone
