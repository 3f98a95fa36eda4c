import Isochrone.Domain.CombiningClass
import Isochrone.Domain.Composites

/-!
# Composed text

The one spelling of a text among those that differ only in whether a letter and its marks are
one character or several, and in the order of marks that do not interact: every character is
taken apart, marks are ordered by their class, and what can be put together is.
-/

namespace Isochrone.Domain

/-- A character taken apart by the composites of a list in turn. -/
def splitBy : List Composite → Char → List Char
  | [], c => [c]
  | composite :: rest, c =>
    if c = composite.whole then splitBy rest composite.base ++ [composite.mark]
    else splitBy rest c

/-- The syllables of Hangul are ordered by their lead, vowel and tail; 28 follow a lead and a
vowel, the first without a tail. -/
def isSyllable (n : Nat) : Bool := 0xac00 ≤ n && n ≤ 0xd7a3

/-- The parts of a syllable. -/
def splitSyllable (n : Nat) : List Char :=
  let index := n - 0xac00
  let lead := [Char.ofNat (0x1100 + index / 588), Char.ofNat (0x1161 + index % 588 / 28)]
  if index % 28 = 0 then lead else lead ++ [Char.ofNat (0x11a7 + index % 28)]

/-- A character taken apart. -/
def split (c : Char) : List Char :=
  if isSyllable c.toNat then splitSyllable c.toNat else splitBy composites c

/-- Put a character in front of ordered text: a mark goes behind the marks of lower classes. -/
def insertMark (c : Char) : List Char → List Char
  | [] => [c]
  | d :: rest =>
    if combiningClass d ≠ 0 ∧ combiningClass d < combiningClass c then d :: insertMark c rest
    else c :: d :: rest

/-- Text whose marks are ordered by class between bases. -/
def ordered (cs : List Char) : List Char := cs.foldr insertMark []

/-- The syllable of a lead and a vowel, or of a syllable without tail and a tail. -/
def joinSyllable? (a b : Nat) : Option Char :=
  if 0x1100 ≤ a ∧ a ≤ 0x1112 ∧ 0x1161 ≤ b ∧ b ≤ 0x1175 then
    some (Char.ofNat (0xac00 + ((a - 0x1100) * 21 + (b - 0x1161)) * 28))
  else if isSyllable a ∧ (a - 0xac00) % 28 = 0 ∧ 0x11a8 ≤ b ∧ b ≤ 0x11c2 then
    some (Char.ofNat (a + (b - 0x11a7)))
  else none

/-- The character that a base forms with what follows it. -/
def join? (a b : Char) : Option Char :=
  match joinSyllable? a.toNat b.toNat with
  | some c => some c
  | none => (composites.find? fun composite => composite.base = a && composite.mark = b).map
      (·.whole)

/-- Put text together from a base on; `kept` holds the marks behind the base that did not join
it, the latest first. A character joins the base unless one between them, of its own class or
a higher one, is in the way. -/
def joinFrom (base : Char) (kept : List Char) : List Char → List Char
  | [] => base :: kept.reverse
  | c :: rest =>
    let blocked := match kept with
      | [] => false
      | mark :: _ => combiningClass c ≤ combiningClass mark
    match if blocked then none else join? base c with
    | some whole => joinFrom whole kept rest
    | none =>
      if combiningClass c = 0 then base :: (kept.reverse ++ joinFrom c [] rest)
      else joinFrom base (c :: kept) rest

/-- Put text together; marks before the first base stand alone. -/
def joined : List Char → List Char
  | [] => []
  | c :: rest => if combiningClass c = 0 then joinFrom c [] rest else c :: joined rest

/-- The composed spelling of a text. Below the first mark no spelling differs. -/
def composed (cs : List Char) : List Char :=
  if cs.all (·.toNat < 0x300) then cs else joined (ordered (cs.flatMap split))

end Isochrone.Domain
