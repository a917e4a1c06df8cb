import Partitioning.Text.Numeral
import Partitioning.Text.Printable

/-!
# Quoted texts for diagnostics

A text between double quotes in which every character can be seen: the quote, the backslash and
the common controls have short escapes, and a character that is not shown is written by its
code point.
-/

namespace Partitioning.Text.Quoted

def escape (c : Char) : List Char :=
  match c with
  | '"' => ['\\', '"']
  | '\\' => ['\\', '\\']
  | '\t' => ['\\', 't']
  | '\r' => ['\\', 'r']
  | '\n' => ['\\', 'n']
  | c =>
    if c.toNat = 0 then ['\\', '0']
    else if isShown c then [c]
    else ['\\', 'u', '\x7b'] ++ Numeral.hex c.toNat ++ ['\x7d']

def encode (s : String) : String :=
  String.ofList ('"' :: s.toList.flatMap escape ++ ['"'])

end Partitioning.Text.Quoted
