import Isochrone.Reading.Decoder

/-!
# Cutoffs

The travel times asked for, in seconds. Order and repetition are kept as given.
-/

namespace Isochrone

open Json (Value)

/-- Cutoff times in seconds, in the order in which they are asked for. -/
structure Cutoffs where
  toList : List UInt32
  deriving DecidableEq, Repr, Inhabited

namespace Cutoffs

/-- No cutoffs. -/
def empty : Cutoffs := ⟨[]⟩

/-- A single cutoff. -/
def single (seconds : UInt32) : Cutoffs := ⟨[seconds]⟩

/-- The number of cutoffs. -/
def size (cutoffs : Cutoffs) : Nat := cutoffs.toList.length

/-- Whether no cutoff is asked for. -/
def isEmpty (cutoffs : Cutoffs) : Bool := cutoffs.toList.isEmpty

/-- Whether `seconds` is asked for. -/
def contains (cutoffs : Cutoffs) (seconds : UInt32) : Bool := cutoffs.toList.contains seconds

/-- Read cutoffs from an array of numbers. -/
def decode : Reading.Decoder Cutoffs := fun d => Cutoffs.mk <$> Reading.list Reading.number32 d

/-- The JSON form. -/
def toJson (cutoffs : Cutoffs) : Value := .array (cutoffs.toList.map .ofUInt32)

end Cutoffs

end Isochrone
