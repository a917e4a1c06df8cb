import Partitioning.Json
import Partitioning.Text.Numeral

/-!
# JSON texts

Members are written in their given order. Only the quote, the backslash and the controls below
the space are escaped. The indented form puts every item on a line of its own, two spaces deeper
than its container, and leaves empty containers closed.
-/

namespace Partitioning.Json.Writer

open Text

def escape (c : Char) : List Char :=
  match c with
  | '"' => ['\\', '"']
  | '\\' => ['\\', '\\']
  | '\n' => ['\\', 'n']
  | '\r' => ['\\', 'r']
  | '\t' => ['\\', 't']
  | c =>
    if c.toNat = 8 then ['\\', 'b']
    else if c.toNat = 12 then ['\\', 'f']
    else if c.toNat < 0x20 then ['\\', 'u'] ++ Numeral.hexPadded 4 c.toNat
    else [c]

/-- A text between quotes. -/
def quoted (s : String) : List Char :=
  '"' :: s.toList.flatMap escape ++ ['"']

/-- How containers are laid out: what follows an opening bracket or a comma, what precedes a
closing bracket, and what stands between a key and its value. -/
structure Layout where
  line : Nat → List Char
  colon : List Char

/-- Everything on one line, without blanks. -/
def compactLayout : Layout := ⟨fun _ => [], [':']⟩

/-- Every item on a line of its own, two blanks further in for each level. -/
def indentedLayout : Layout := ⟨fun depth => '\n' :: List.replicate (2 * depth) ' ', [':', ' ']⟩

mutual
def value (layout : Layout) (depth : Nat) : Json → List Char
  | .null => "null".toList
  | .bool b => (if b then "true" else "false").toList
  | .number n => n.text.toList
  | .string s => quoted s
  | .array [] => ['[', ']']
  | .array (j :: rest) =>
    '[' :: layout.line (depth + 1) ++ value layout (depth + 1) j ++
      items layout (depth + 1) rest ++ layout.line depth ++ [']']
  | .object [] => ['\x7b', '\x7d']
  | .object ((k, j) :: rest) =>
    '\x7b' :: layout.line (depth + 1) ++ quoted k ++ layout.colon ++ value layout (depth + 1) j ++
      members layout (depth + 1) rest ++ layout.line depth ++ ['\x7d']

def items (layout : Layout) (depth : Nat) : List Json → List Char
  | [] => []
  | j :: rest => ',' :: layout.line depth ++ value layout depth j ++ items layout depth rest

def members (layout : Layout) (depth : Nat) : List (String × Json) → List Char
  | [] => []
  | (k, j) :: rest =>
    ',' :: layout.line depth ++ quoted k ++ layout.colon ++ value layout depth j ++
      members layout depth rest
end

end Writer

/-- The text without any space. -/
def compact (j : Json) : String :=
  String.ofList (Writer.value Writer.compactLayout 0 j)

/-- The indented text. -/
def pretty (j : Json) : String :=
  String.ofList (Writer.value Writer.indentedLayout 0 j)

end Partitioning.Json
