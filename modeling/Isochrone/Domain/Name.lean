import Isochrone.Domain.Composition
import Isochrone.Domain.Direction
import Isochrone.Domain.Folding
import Isochrone.Domain.Joining
import Isochrone.Domain.Punycode

/-!
# Names of hosts

A name of labels between dots, in any script, and the one form in ASCII under which it is
looked up: characters are folded and composed, and a label beyond ASCII is written in ASCII
behind a sign of this. A label that comes written so must be what writing its own folded and
composed form gives.
-/

namespace Isochrone.Domain

/-- A label as it reads, and as it is written in ASCII. -/
structure Label where
  shown : List Char
  written : List Char
  deriving DecidableEq, Repr

/-- Whether a character belongs to ASCII. -/
def isAscii (c : Char) : Bool := c.toNat < 0x80

/-- Whether no name can hold a character of ASCII, as it has a meaning in an address or no
shape. -/
def isForbidden (c : Char) : Bool :=
  c.toNat ≤ 0x20 || c.toNat = 0x7f || "%#/:<>?@[\\]^|".toList.contains c

/-- What a label written in ASCII begins with. -/
def marker : List Char := ['x', 'n', '-', '-']

/-- The longest label beyond ASCII, in characters, and the longest text that writes one. -/
def maxShown : Nat := 1000

/-- The longest text that writes a label, without its marker. -/
def maxWritten : Nat := 2000

/-- The folded and composed form of a text, if names can hold its characters. -/
def folded? (cs : List Char) : Option (List Char) := do
  return composed (← cs.mapM fold?).flatten

/-- Whether a label beyond ASCII is well formed: it does not begin with a mark, and what asks
to join or to separate shows. -/
def isWellFormed (shown : List Char) : Bool :=
  shown.length ≤ maxShown && !(shown.head?.map isMark).getD false && joinersFit [] shown

/-- A label of a folded and composed name. -/
def label? (cs : List Char) : Option Label :=
  if marker.isPrefixOf cs then do
    let code := cs.drop marker.length
    if !code.all isAscii || code.isEmpty || code.getLast? = some '-' ||
        maxWritten < code.length then none
    else
      let shown ← Punycode.decode? code
      if folded? shown = some shown && isWellFormed shown then some ⟨shown, cs⟩ else none
  else if cs.all isAscii then some ⟨cs, cs⟩
  else if isWellFormed cs then some ⟨cs, marker ++ Punycode.encode cs⟩
  else none

/-- Whether a name can be read where it holds characters written from right to left. -/
def isReadable (labels : List Label) : Bool :=
  !(labels.any fun label => label.shown.any turnsName) ||
    labels.all fun label => runsOneWay label.shown

/-- The form in ASCII of a name, if it has one. -/
def toAscii? (cs : List Char) : Option (List Char) := do
  let name ← folded? cs
  if name.any isForbidden then none
  else
    let labels ← (Text.pieces '.' name).mapM label?
    if isReadable labels then some (['.'].intercalate (labels.map (·.written))) else none

end Isochrone.Domain
