import Isochrone.Domain.Excluded
import Isochrone.Domain.Forms
import Isochrone.Domain.Shifts

/-!
# Folding

What a character stands for in a name: capitals for small letters, wide, raised and enclosed
forms for plain ones, ligatures for their parts, ideographic full stops for the dot.
-/

namespace Isochrone.Domain

/-- What a character stands for in a name, if names can hold it; names leave out a character
that stands for nothing. -/
def fold? (c : Char) : Option (List Char) :=
  if c.toNat < 0x80 then some [c.toLower]
  else if isExcluded c then none
  else if isIgnored c then some []
  else match form? c.toNat with
    | some word => some word
    | none => some [(shifted? c.toNat).getD c]

end Isochrone.Domain
