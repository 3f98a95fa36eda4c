import Isochrone.Domain.Name
import Isochrone.Http.Ipv6
import Isochrone.Text.Percent

/-!
# Hosts

What stands in an address for the machine to ask: a name, or a number. On the web a name can
be in any script and percent-encoded, and one that ends in a number is a number; elsewhere it
stands for itself.
-/

namespace Isochrone.Http

/-- The machine to ask; the empty name is that of no machine. -/
inductive Host where
  | name (text : String)
  | ipv4 (address : Nat)
  | ipv6 (groups : List Nat)
  deriving DecidableEq, Repr

namespace Host

/-- No machine. -/
def absent : Host := .name ""

/-- The text of a host. -/
def text : Host → String
  | name text => text
  | ipv4 address => Ipv4.text address
  | ipv6 groups => "[" ++ Ipv6.text groups ++ "]"

/-- A number of 128 bits after its opening bracket. -/
def ofBracketed? (cs : List Char) : Option Host :=
  if cs.getLast? = some ']' then (Ipv6.parse? cs.dropLast).map .ipv6 else none

/-- The host that a text on the web names. -/
def ofWeb? : List Char → Option Host
  | '[' :: rest => ofBracketed? rest
  | cs => do
    let decoded ← String.fromUTF8? (Text.percentDecode cs).toByteArray
    let name ← Domain.toAscii? decoded.toList
    if name.isEmpty then none
    else if Ipv4.isMeant name then (Ipv4.parse? name).map .ipv4
    else some (.name (String.ofList name))

/-- A character beyond the visible ones of ASCII. -/
def isInvisible (c : Char) : Bool := c.toNat < 0x20 || 0x7e < c.toNat

/-- Whether a host elsewhere than on the web cannot hold a character. -/
def isMisplaced (c : Char) : Bool := "\x00\t\n\r #/:<>?@[\\]^|".toList.contains c

/-- The host that a text elsewhere than on the web names. -/
def ofPlain? : List Char → Option Host
  | '[' :: rest => ofBracketed? rest
  | cs =>
    if cs.any isMisplaced then none
    else some (.name (String.ofList (Text.percentEncode isInvisible cs)))

end Host

end Isochrone.Http
