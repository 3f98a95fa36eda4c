import Isochrone.Text.Quoted

/-!
# Inspected structures

The one-line text of a structure for people who look into it: its name, and its parts in
brackets if it has any.
-/

namespace Isochrone.Text

/-- A structure with named fields. -/
def inspectFields (name : String) (fields : List (String × String)) : String :=
  let body := fields.map fun field => field.1 ++ ": " ++ field.2
  name ++ " \x7b " ++ ", ".intercalate body ++ " \x7d"

/-- A structure with one part that has no name. -/
def inspectWrapped (name part : String) : String := name ++ "(" ++ part ++ ")"

end Isochrone.Text
