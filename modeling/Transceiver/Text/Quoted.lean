import Transceiver.Text.Printable

/-!
Quoted text: between double quotes, with the quote, the backslash and the common controls escaped by
one letter, and every other character that is not printable by its code point in braces.
-/

namespace Transceiver.Text

def escapeChar (c : Char) : List Char :=
  match c with
  | '\t' => ['\\', 't']
  | '\r' => ['\\', 'r']
  | '\n' => ['\\', 'n']
  | '"' => ['\\', '"']
  | '\\' => ['\\', '\\']
  | '\x00' => ['\\', '0']
  | c =>
      if isPrintable c then [c]
      else ['\\', 'u', '\x7b'] ++ Nat.toDigits 16 c.toNat ++ ['\x7d']

def quoted (text : List Char) : List Char :=
  '"' :: text.flatMap escapeChar ++ ['"']

end Transceiver.Text
