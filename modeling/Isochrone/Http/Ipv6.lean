import Isochrone.Http.Ipv4

/-!
# Host numbers of 128 bits

Eight groups of up to four hexadecimal digits between colons. Two colons in a row stand, once,
for one or more groups of zeros, and the last two groups can be written as four bytes in
decimal. The written form has small letters, no leading zeros, and two colons for the first of
the longest runs of two or more zeros.
-/

namespace Isochrone.Http.Ipv6

/-- A part of the text of a host number. -/
inductive Part where
  | group (value : Nat)
  /-- Two colons in a row. -/
  | gap
  deriving DecidableEq, Repr

/-- The value of a group. -/
def group? (digits : List Char) : Option Nat :=
  if digits.isEmpty || 4 < digits.length then none else Ipv4.value? 16 digits

/-- A byte in decimal without leading zeros. -/
def byte? : List Char → Option Nat
  | [] => none
  | '0' :: _ :: _ => none
  | digits => do
    let n ← Ipv4.value? 10 digits
    if n < 0x100 then some n else none

/-- The two groups of four bytes in decimal. -/
def bytes? (cs : List Char) : Option (List Part) := do
  match ← (Text.pieces '.' cs).mapM byte? with
  | [a, b, c, d] => some [.group (0x100 * a + b), .group (0x100 * c + d)]
  | _ => none

/-- The parts of the pieces between colons. -/
def parts? : List (List Char) → Option (List Part)
  | [] => none
  | [last] => if last.contains '.' then bytes? last else do return [.group (← group? last)]
  | [[], []] => some [.gap]
  | [] :: rest => do return .gap :: (← parts? rest)
  | piece :: rest => do return .group (← group? piece) :: (← parts? rest)

/-- The groups of parts, where a gap is filled up to eight groups. -/
def fill? (parts : List Part) : Option (List Nat) :=
  let gaps := parts.countP (· = .gap)
  if 8 < parts.length || 1 < gaps || (gaps = 0 && parts.length ≠ 8) then none
  else some <| parts.flatMap fun
    | .group value => [value]
    | .gap => List.replicate (9 - parts.length) 0

/-- The groups of a host number. A colon at the beginning must be one of two. -/
def parse? (cs : List Char) : Option (List Nat) := do
  match Text.pieces ':' cs with
  | [] :: [] :: rest => fill? (← parts? ([] :: rest))
  | [] :: _ => none
  | pieces => fill? (← parts? pieces)

/-- The length of the run of zeros at the beginning of groups. -/
def zeros (groups : List Nat) : Nat := (groups.takeWhile (· = 0)).length

/-- Where the first of the longest runs of zeros begins, and its length. -/
def longestZeros : List Nat → Nat × Nat
  | [] => (0, 0)
  | value :: rest =>
    let (start, length) := longestZeros rest
    let here := zeros (value :: rest)
    if length ≤ here then (0, here) else (start + 1, length)

/-- Groups between colons. -/
def groupsText (groups : List Nat) : List Char :=
  [':'].intercalate (groups.map (Nat.toDigits 16))

/-- The written form of a host number. -/
def text (groups : List Nat) : String :=
  let (start, length) := longestZeros groups
  String.ofList <|
    if length < 2 then groupsText groups
    else groupsText (groups.take start) ++ [':', ':'] ++ groupsText (groups.drop (start + length))

end Isochrone.Http.Ipv6
