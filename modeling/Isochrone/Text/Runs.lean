/-!
# Runs of numbers

A set of numbers given by the points at which membership changes, in ascending order: the
first entry begins a run, and then every entry ends one run or begins the next.
-/

namespace Isochrone.Text

/-- Whether a number lies in one of the runs. -/
def inRuns (changes : List Nat) (n : Nat) : Bool :=
  (changes.takeWhile (· ≤ n)).length % 2 = 1

end Isochrone.Text
