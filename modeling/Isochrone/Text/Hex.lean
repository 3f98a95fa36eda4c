/-!
# Hexadecimal digits

The value of a digit in either case, and the digit of a value in upper case.
-/

namespace Isochrone.Text

/-- The value of a hexadecimal digit in either case. -/
def hexValue? (c : Char) : Option Nat :=
  if '0' ≤ c ∧ c ≤ '9' then some (c.toNat - '0'.toNat)
  else if 'a' ≤ c ∧ c ≤ 'f' then some (c.toNat - 'a'.toNat + 10)
  else if 'A' ≤ c ∧ c ≤ 'F' then some (c.toNat - 'A'.toNat + 10)
  else none

/-- The upper-case hexadecimal digit of a number below 16. -/
def upperHex (n : Nat) : Char := (Nat.digitChar n).toUpper

/-- A digit reads back as its value. -/
theorem hexValue?_upperHex {n : Nat} (h : n < 16) : hexValue? (upperHex n) = some n := by
  have hall : ∀ i : Fin 16, hexValue? (upperHex i) = some i.val := by decide
  exact hall ⟨n, h⟩

end Isochrone.Text
