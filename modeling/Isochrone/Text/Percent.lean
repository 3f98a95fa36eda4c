import Isochrone.Text.Hex

/-!
# Percent-encoding

A byte that may not stand for itself is written as a percent sign and its two upper-case
hexadecimal digits; a character is written by the bytes of its UTF-8 form.
-/

namespace Isochrone.Text

/-- A byte in percent-encoding. -/
def percentByte (b : UInt8) : List Char :=
  ['%', upperHex (b.toNat / 16), upperHex (b.toNat % 16)]

/-- A character in percent-encoding. -/
def percentChar (c : Char) : List Char := (String.utf8EncodeChar c).flatMap percentByte

/-- A text in which the characters of a class are percent-encoded. -/
def percentEncode (unfit : Char → Bool) (cs : List Char) : List Char :=
  cs.flatMap fun c => if unfit c then percentChar c else [c]

/-- The bytes of a text whose percent-encoded bytes are decoded; a percent sign without two
digits stands for itself. -/
def percentDecode : List Char → List UInt8
  | '%' :: a :: b :: rest =>
    match hexValue? a, hexValue? b with
    | some high, some low => UInt8.ofNat (16 * high + low) :: percentDecode rest
    | _, _ => 0x25 :: percentDecode (a :: b :: rest)
  | c :: rest => String.utf8EncodeChar c ++ percentDecode rest
  | [] => []

end Isochrone.Text
