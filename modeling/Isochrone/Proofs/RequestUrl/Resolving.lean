import Isochrone.RequestUrl
import Mathlib.Data.List.DropRight

/-!
# URLs under a root

A URL is resolved by writing it behind the root of the service. Slashes at the end of the root do
not count, however many there are.
-/

namespace Isochrone.RequestUrl

/-- A number of slashes. -/
def slashes (n : ℕ) : String := String.ofList (List.replicate n '/')

end Isochrone.RequestUrl
