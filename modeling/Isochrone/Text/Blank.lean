/-!
# Blanks

The characters with the Unicode property White_Space, and text without the blanks around it.
-/

namespace Isochrone.Text

/-- The code points with the property White_Space. -/
def blankPoints : List Nat :=
  [0x9, 0xa, 0xb, 0xc, 0xd, 0x20, 0x85, 0xa0, 0x1680, 0x2000, 0x2001, 0x2002, 0x2003, 0x2004,
    0x2005, 0x2006, 0x2007, 0x2008, 0x2009, 0x200a, 0x2028, 0x2029, 0x202f, 0x205f, 0x3000]

/-- Whether a character has the property White_Space. -/
def isBlank (c : Char) : Bool := blankPoints.contains c.toNat

/-- The text without the blanks at its start and end. -/
def trim (cs : List Char) : List Char :=
  ((cs.dropWhile isBlank).reverse.dropWhile isBlank).reverse

end Isochrone.Text
