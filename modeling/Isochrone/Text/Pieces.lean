/-!
# Pieces of a text

A text cut at every occurrence of a separator, or at the first one only.
-/

namespace Isochrone.Text

/-- The pieces of a text between the occurrences of a separator. -/
def pieces (separator : Char) : List Char → List (List Char)
  | [] => [[]]
  | c :: rest =>
    if c = separator then [] :: pieces separator rest
    else match pieces separator rest with
      | [] => [[c]]
      | piece :: others => (c :: piece) :: others

/-- The text before the first occurrence of a separator, and the text after it. -/
def splitFirst (separator : Char) : List Char → List Char × List Char
  | [] => ([], [])
  | c :: rest =>
    if c = separator then ([], rest)
    else let (before, after) := splitFirst separator rest; (c :: before, after)

end Isochrone.Text
