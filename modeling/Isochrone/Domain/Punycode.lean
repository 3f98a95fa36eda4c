/-!
# Labels in ASCII

A label beyond ASCII is written by its ASCII characters, a hyphen if there are any, and a
number for each of its other characters in ascending order: how many states a walk through
all positions of all code points passes until the next insertion. Numbers are written in 36
digits with a threshold per place, which follows the size of the numbers before.
-/

namespace Isochrone.Domain.Punycode

/-- The digit of a value below 36: the letters, then the digits of ASCII. -/
def digit (n : Nat) : Char := if n < 26 then Char.ofNat (0x61 + n) else Char.ofNat (0x16 + n)

/-- The value of a digit. -/
def value? (c : Char) : Option Nat :=
  if 'a' ≤ c ∧ c ≤ 'z' then some (c.toNat - 0x61)
  else if '0' ≤ c ∧ c ≤ '9' then some (c.toNat - 0x16)
  else none

/-- The threshold of a place, which is counted in steps of 36 from the first: a digit below it
is the last of its number. -/
def threshold (place bias : Nat) : Nat :=
  if place ≤ bias then 1 else if bias + 26 ≤ place then 26 else place - bias

/-- A threshold lies between 1 and 26. -/
theorem threshold_bounds (place bias : Nat) :
    1 ≤ threshold place bias ∧ threshold place bias ≤ 26 := by
  unfold threshold
  split
  · omega
  · split <;> omega

/-- Shrink a number to the range of the bias, with the places that this takes. -/
def shrink (delta places : Nat) : Nat × Nat :=
  if 455 < delta then shrink (delta / 35) (places + 36) else (delta, places)
termination_by delta
decreasing_by exact Nat.div_lt_self (by omega) (by omega)

/-- The bias after a number; the first number of a label is damped more. -/
def adapt (delta count : Nat) (first : Bool) : Nat :=
  let halved := if first then delta / 700 else delta / 2
  let (rest, places) := shrink (halved + halved / count) 0
  places + 36 * rest / (rest + 38)

/-- The digits of a number from a place on. -/
def digits (bias place n : Nat) : List Char :=
  let t := threshold place bias
  if n < t then [digit n]
  else digit (t + (n - t) % (36 - t)) :: digits bias (place + 36) ((n - t) / (36 - t))
termination_by n
decreasing_by
  have bounds := threshold_bounds place bias
  have small := Nat.div_le_self (n - threshold place bias) (36 - threshold place bias)
  omega

/-- Where the walk of a label stands. -/
structure Walk where
  /-- The states passed since the last insertion. -/
  delta : Nat
  bias : Nat
  /-- The characters written. -/
  count : Nat
  written : List Char

/-- Pass a character of the label in the round of a code point. -/
def Walk.pass (plain point : Nat) (walk : Walk) (c : Char) : Walk :=
  if c.toNat < point then { walk with delta := walk.delta + 1 }
  else if c.toNat = point then
    { delta := 0
      bias := adapt walk.delta (walk.count + 1) (walk.count = plain)
      count := walk.count + 1
      written := walk.written ++ digits walk.bias 36 walk.delta }
  else walk

/-- Walk the rounds of ascending code points, from a code point on. -/
def Walk.rounds (label : List Char) (plain : Nat) (walk : Walk) (start : Nat) :
    List Nat → Walk
  | [] => walk
  | point :: rest =>
    let skipped := { walk with delta := walk.delta + (point - start) * (walk.count + 1) }
    let walked := label.foldl (Walk.pass plain point) skipped
    Walk.rounds label plain { walked with delta := walked.delta + 1 } (point + 1) rest

/-- Insert a number into ascending distinct numbers. -/
def insertPoint (n : Nat) : List Nat → List Nat
  | [] => [n]
  | m :: rest => if n < m then n :: m :: rest else if n = m then m :: rest
    else m :: insertPoint n rest

/-- A label written in ASCII. -/
def encode (label : List Char) : List Char :=
  let plain := label.filter (·.toNat < 0x80)
  let points := ((label.filter (0x80 ≤ ·.toNat)).map (·.toNat)).foldr insertPoint []
  let walk := Walk.rounds label plain.length ⟨0, 72, plain.length, []⟩ 0x80 points
  plain ++ (if plain.isEmpty then [] else ['-']) ++ walk.written

/-- Where the reading of a label stands. -/
structure Reader where
  /-- The characters read. -/
  label : List Char
  /-- The code point of the round. -/
  point : Nat
  /-- The position of the next insertion, before the number that is being read is complete. -/
  position : Nat
  /-- The position at which the number began. -/
  start : Nat
  bias : Nat
  /-- The place of the next digit, and what a unit of it counts. -/
  place : Nat
  weight : Nat

/-- Numbers above this are refused. -/
def limit : Nat := 0xffffffff

/-- Whether a number can be the code point of a character. -/
def isCodePoint (n : Nat) : Bool := n < 0xd800 || (0xdfff < n && n < 0x110000)

/-- Read a digit; the last one of a number inserts a character. -/
def Reader.step? (reader : Reader) (c : Char) : Option Reader := do
  let d ← value? c
  let position := reader.position + d * reader.weight
  let t := threshold reader.place reader.bias
  if limit < position then none
  else if d < t then
    let count := reader.label.length + 1
    let point := reader.point + position / count
    let index := position % count
    if isCodePoint point then
      some { label := reader.label.take index ++ Char.ofNat point :: reader.label.drop index
             point := point
             position := index + 1
             start := index + 1
             bias := adapt (position - reader.start) count (reader.start = 0)
             place := 36
             weight := 1 }
    else none
  else if limit < reader.weight * (36 - t) then none
  else some { reader with
    position := position
    place := reader.place + 36
    weight := reader.weight * (36 - t) }

/-- The ASCII characters of a written label and its digits: the last hyphen, unless it comes
first, stands between them. -/
def halves (written : List Char) : List Char × List Char :=
  let digits := (written.reverse.takeWhile (· ≠ '-')).reverse
  let plain := (written.take (written.length - digits.length)).dropLast
  if plain.isEmpty then ([], written) else (plain, digits)

/-- The label that a text in ASCII writes. -/
def decode? (written : List Char) : Option (List Char) := do
  let (plain, digits) := halves written
  let reader ← digits.foldlM Reader.step? ⟨plain, 0x80, 0, 0, 72, 36, 1⟩
  if reader.place = 36 then some reader.label else none

end Isochrone.Domain.Punycode
