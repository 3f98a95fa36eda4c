import Isochrone.Number.Binary64

/-!
# Numbers read from decimal text

Two readings of a decimal. `Binary64.ofDecimal` takes the number nearest to it. The scaled
reading, which JSON documents use, rounds a 64-bit significand first and scales it by a
rounded power of ten afterwards, so its last bit may differ from the nearest.
-/

namespace Isochrone.Binary64

/-- The number nearest to `± coefficient · 10 ^ exponent`. Exponents far outside the range
are settled by the number of digits alone. -/
def ofDecimal (negative : Bool) (coefficient : Nat) (exponent : Int) : Binary64 :=
  if coefficient = 0 then .finite (.zero negative)
  else if 310 < exponent then .infinite negative
  else if exponent + (Nat.toDigits 10 coefficient).length < -330 then .finite (.zero negative)
  else match exponent with
    | .ofNat n => ofRatio negative (coefficient * Nat.pow 10 n) 1
    | .negSucc n => ofRatio negative coefficient (Nat.pow 10 (n + 1))

/-- A finite number times a rounded power of ten. -/
def Finite.timesTenPow (x : Finite) (e : Nat) : Binary64 :=
  match tenPow e with
  | .finite p => x.mul p
  | other => other

/-- A finite number divided by a rounded power of ten. -/
def Finite.overTenPow (x : Finite) (e : Nat) : Binary64 :=
  match tenPow e with
  | .finite p => x.div p
  | other => other

/-- The largest power of ten that is a finite number. -/
def maxTenPow : Nat := 308

/-- The number `± significand · 10 ^ exponent` in two roundings: the significand first, the
scaled number next. Division below the smallest power of ten takes two steps, and beyond
those nothing but zero is left. -/
def ofScaled (negative : Bool) (significand : Nat) (exponent : Int) : Binary64 :=
  match ofRatio negative significand 1 with
  | .finite x =>
    if x.isZero then .finite x
    else match exponent with
      | .ofNat e => if e ≤ maxTenPow then x.timesTenPow e else .infinite negative
      | .negSucc n =>
        let e := n + 1
        if e ≤ maxTenPow then x.overTenPow e
        else if e ≤ 2 * maxTenPow then
          match x.overTenPow maxTenPow with
          | .finite y => y.overTenPow (e - maxTenPow)
          | other => other
        else .finite (.zero negative)
  | other => other

/-- The digits at the start of a text, and what follows them. -/
def spanDigits (cs : List Char) : List Char × List Char :=
  (cs.takeWhile Char.isDigit, cs.dropWhile Char.isDigit)

/-- A leading sign, `true` for minus, and what follows it. -/
def spanSign : List Char → Bool × List Char
  | '-' :: rest => (true, rest)
  | '+' :: rest => (false, rest)
  | cs => (false, cs)

/-- The value of decimal digits. -/
def digitsValue (digits : List Char) : Nat := Nat.ofDigitChars 10 digits 0

/-- An exponent part that takes up the whole text, or none at all. -/
def exponent? : List Char → Option Int
  | [] => some 0
  | c :: rest =>
    if c = 'e' ∨ c = 'E' then
      let (negative, rest) := spanSign rest
      match spanDigits rest with
      | ([], _) => none
      | (digits, []) => some (if negative then -(digitsValue digits : Int) else digitsValue digits)
      | _ => none
    else none

/-- Read a number as free text: a sign, then `inf`, `infinity` or `nan` in either case, or
digits with an optional point and exponent. -/
def ofText? (text : String) : Option Binary64 :=
  let (negative, rest) := spanSign text.toList
  match String.ofList (rest.map Char.toLower) with
  | "inf" | "infinity" => some (.infinite negative)
  | "nan" => some .nan
  | _ =>
    let (whole, rest) := spanDigits rest
    let (fraction, rest) := match rest with
      | '.' :: rest => spanDigits rest
      | rest => ([], rest)
    if whole.isEmpty && fraction.isEmpty then none
    else (exponent? rest).map fun e =>
      ofDecimal negative (digitsValue (whole ++ fraction)) (e - fraction.length)

end Isochrone.Binary64
