import Isochrone.Text.Shapeless

/-!
# Quoted text

Text between double quotes on one line of visible characters: quote, backslash and the
usual control characters have short escapes, and every other character without a shape of
its own is written by its code point.
-/

namespace Isochrone.Text

/-- A code point in braces after `\u`, in lower-case hexadecimal. -/
def codePoint (c : Char) : List Char :=
  '\\' :: 'u' :: '\x7b' :: (Nat.toDigits 16 c.toNat ++ ['\x7d'])

/-- A character of a quoted text. -/
def quoteChar (c : Char) : List Char :=
  match c with
  | '"' => ['\\', '"']
  | '\\' => ['\\', '\\']
  | '\x00' => ['\\', '0']
  | '\t' => ['\\', 't']
  | '\n' => ['\\', 'n']
  | '\r' => ['\\', 'r']
  | c => if isShapeless c then codePoint c else [c]

/-- Text between quotes. -/
def quoted (s : String) : String :=
  String.ofList ('"' :: s.toList.flatMap quoteChar ++ ['"'])

end Isochrone.Text
