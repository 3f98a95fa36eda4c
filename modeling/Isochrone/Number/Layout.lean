import Isochrone.Number.Shortest

/-!
# Written numbers

A layout fixes how the digits of a number are set out: where positional writing ends,
whether a whole number shows its point, and which way a tie between digits goes.
-/

namespace Isochrone

/-- How the digits of a number are set out. -/
structure Layout where
  /-- Which way a tie between two last digits goes. -/
  tie : Tie
  /-- The powers of ten of a first digit that are written positionally, the upper bound
  excluded; without bounds all are. -/
  positional : Option (Int × Int)
  /-- Whether a whole number ends in `.0`. -/
  wholePoint : Bool
  deriving Repr

namespace Layout

/-- Plain text: always positional, and a whole number has no point. -/
def plain : Layout := ⟨.up, none, false⟩

/-- JSON text: positional for first digits from `10 ^ -5` up to `10 ^ 15`, and a whole
number ends in `.0`. -/
def json : Layout := ⟨.toEven, some (-5, 16), true⟩

/-- Whether a number whose first digit stands at `10 ^ e` is written positionally. -/
def isPositional (layout : Layout) (e : Int) : Bool :=
  match layout.positional with
  | none => true
  | some (low, high) => low ≤ e && e < high

/-- Digits with the point after the first `whole` of them, zeros filled in on either side. -/
def pointed (layout : Layout) (digits : List Char) (whole : Int) : List Char :=
  if digits.length ≤ whole then
    digits ++ List.replicate (whole - digits.length).toNat '0' ++
      if layout.wholePoint then ['.', '0'] else []
  else if 0 < whole then digits.take whole.toNat ++ '.' :: digits.drop whole.toNat
  else '0' :: '.' :: List.replicate (-whole).toNat '0' ++ digits

/-- Digits with the point after the first, followed by the signed power of ten. -/
def scientific (digits : List Char) (e : Int) : List Char :=
  let mantissa := match digits with
    | first :: second :: rest => first :: '.' :: second :: rest
    | short => short
  mantissa ++ 'e' :: (if e < 0 then '-' else '+') :: Nat.toDigits 10 e.natAbs

/-- The text of a decimal. -/
def decimal (layout : Layout) (d : Decimal) : List Char :=
  let digits := Nat.toDigits 10 d.coefficient
  let whole := d.exponent + digits.length
  if layout.isPositional (whole - 1) then layout.pointed digits whole
  else scientific digits (whole - 1)

/-- The text of a finite number: its sign and its shortest decimal. -/
def finite (layout : Layout) (x : Binary64.Finite) : List Char :=
  (if x.negative then ['-'] else []) ++ layout.decimal (x.shortest layout.tie)

end Layout

/-- The plain text of a number, never with an exponent. -/
def Binary64.text : Binary64 → String
  | .finite x => String.ofList (Layout.plain.finite x)
  | .infinite true => "-inf"
  | .infinite false => "inf"
  | .nan => "NaN"

end Isochrone
