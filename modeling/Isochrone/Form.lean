import Isochrone.Text.Percent
import Isochrone.Text.Pieces

/-!
# Form-encoded pairs

The text `key=value&key=value` in which letters, digits and `*-._` stand for themselves, a
blank is a plus sign and every other byte is percent-encoded. Decoding skips empty pieces,
splits a piece at its first equals sign and refuses what is not UTF-8.
-/

namespace Isochrone.Form

/-- Whether a character stands for itself. -/
def isPlain (c : Char) : Bool :=
  ('a' ≤ c && c ≤ 'z') || ('A' ≤ c && c ≤ 'Z') || ('0' ≤ c && c ≤ '9') ||
    c = '*' || c = '-' || c = '.' || c = '_'

/-- An encoded character. -/
def encodeChar (c : Char) : List Char :=
  if isPlain c then [c] else if c = ' ' then ['+'] else Text.percentChar c

/-- An encoded key or value. -/
def encodeText (s : String) : List Char := s.toList.flatMap encodeChar

/-- An encoded pair. -/
def encodePair (pair : String × String) : List Char :=
  encodeText pair.1 ++ '=' :: encodeText pair.2

/-- Pairs, each after an ampersand. -/
def encodeMore (pairs : List (String × String)) : List Char :=
  pairs.flatMap fun pair => '&' :: encodePair pair

/-- Encoded pairs. -/
def encode (pairs : List (String × String)) : String :=
  match pairs with
  | [] => ""
  | first :: rest => String.ofList (encodePair first ++ encodeMore rest)

/-- The text of a piece of a pair, if its bytes are UTF-8. -/
def decodeText? (cs : List Char) : Option String :=
  String.fromUTF8? (Text.percentDecode (cs.map fun c => if c = '+' then ' ' else c)).toByteArray

/-- The pair of a piece. -/
def decodePair? (piece : List Char) : Option (String × String) := do
  let (key, value) := Text.splitFirst '=' piece
  return (← decodeText? key, ← decodeText? value)

/-- The pairs of an encoded text. -/
def decode? (cs : List Char) : Option (List (String × String)) :=
  ((Text.pieces '&' cs).filter fun piece => !piece.isEmpty).mapM decodePair?

end Isochrone.Form
