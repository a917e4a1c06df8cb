import Partitioning.Binary
import Partitioning.Decimal.Shortest
import Partitioning.Json
import Partitioning.Powers
import Partitioning.Text.Blank
import Partitioning.Text.Quoted

/-!
# Setting values

The small language in which the value of an environment variable is written: `true` and `false`,
numbers, `"quoted"` texts, single characters, `[lists]` and `{key = value}` groups. Whatever is
not written in this language stands for itself as a text.
-/

namespace Partitioning.Settings

open Text

inductive Value where
  | text (s : String)
  | bool (b : Bool)
  | unsigned (n : Nat)
  | signed (n : Int)
  | float (bits : Nat)
  | list (items : List Value)
  | group (members : List (String × Value))

namespace Value

def describe : Value → String
  | text s => s!"string {Quoted.encode s}"
  | bool b => s!"bool {b}"
  | unsigned n => s!"unsigned int `{n}`"
  | signed n => s!"signed int `{n}`"
  | float bits => s!"float `{Decimal.plainText Binary.double bits}`"
  | list _ => "sequence"
  | group _ => "map"

def isSpace (c : Char) : Bool :=
  c == ' ' || c == '\t' || c == '\n' || c == '\r' || c.toNat == 12

def skipSpaces (cs : List Char) : List Char := cs.dropWhile isSpace

def isSeparator (c : Char) : Bool :=
  c == ',' || c == '[' || c == ']' || c == '\x7b' || c == '\x7d'

def isKeyChar (c : Char) : Bool :=
  c.isAlphanum || c == '_' || c == '-'

/-- The characters up to a quote that no backslash escapes, and what follows the quote. -/
def quotedPart? : List Char → Option (List Char × List Char)
  | [] => none
  | '"' :: rest => some ([], rest)
  | '\\' :: c :: rest => (quotedPart? rest).map fun p => ('\\' :: c :: p.1, p.2)
  | c :: rest => (quotedPart? rest).map fun p => (c :: p.1, p.2)

def isScalarValue (n : Nat) : Bool :=
  n < 0xD800 || (0xDFFF < n && n < 0x110000)

def escaped? (digits : List Char) : Option Char := do
  let n ← Numeral.ofHex? digits
  guard (isScalarValue n)
  pure (Char.ofNat n)

/-- Resolves the escapes of a quoted part. Controls other than the tab are not allowed. -/
def unescape? : List Char → Option (List Char)
  | [] => some []
  | '\\' :: 'u' :: a :: b :: c :: d :: rest => do
    pure ((← escaped? [a, b, c, d]) :: (← unescape? rest))
  | '\\' :: 'U' :: a :: b :: c :: d :: e :: f :: g :: h :: rest => do
    pure ((← escaped? [a, b, c, d, e, f, g, h]) :: (← unescape? rest))
  | '\\' :: c :: rest => do
    let x ← match c with
      | '"' => some '"'
      | '\\' => some '\\'
      | 'b' => some (Char.ofNat 8)
      | 'f' => some (Char.ofNat 12)
      | 'n' => some '\n'
      | 'r' => some '\r'
      | 't' => some '\t'
      | _ => none
    pure (x :: (← unescape? rest))
  | ['\\'] => none
  | c :: rest => do
    guard (c == '\t' || (0x20 ≤ c.toNat && c.toNat != 0x7F))
    pure (c :: (← unescape? rest))

def quoted? (cs : List Char) : Option (String × List Char) := do
  let (inner, rest) ← quotedPart? cs
  pure (String.ofList (← unescape? inner), rest)

/-- The double nearest to `± digits · 10^power`, infinite or zero far outside its range. -/
def decimalBits (negative : Bool) (digits : List Char) (power : Int) : Nat :=
  let n := Nat.ofDigitChars 10 digits 0
  let magnitude :=
    if n = 0 then 0
    else if 400 < power then Binary.double.infinity
    else if power < -(400 + digits.length : Int) then 0
    else Binary.double.round (n * tenTo power.toNat) (tenTo (-power).toNat)
  if negative then magnitude + Binary.double.signBit else magnitude

/-- Digits around a point, at least one of them, with an optional sign and exponent. -/
def float? (cs : List Char) : Option Nat := do
  let (negative, body) := match cs with
    | '-' :: rest => (true, rest)
    | '+' :: rest => (false, rest)
    | rest => (false, rest)
  let whole := body.takeWhile Char.isDigit
  let (places, rest) := match body.dropWhile Char.isDigit with
    | '.' :: rest => (rest.takeWhile Char.isDigit, rest.dropWhile Char.isDigit)
    | rest => ([], rest)
  guard (!(whole ++ places).isEmpty)
  let power ← match rest with
    | [] => some 0
    | c :: rest => if c == 'e' || c == 'E' then Numeral.signed? rest else none
  pure (decimalBits negative (whole ++ places) (power - places.length))

/-- A value without delimiters: a number if it is one that fits, else a text. -/
def word (cs : List Char) : Value :=
  let float := if '.' ∈ cs then float? cs else none
  match float, Numeral.unsigned? cs, Numeral.signed? cs with
  | some bits, _, _ => .float bits
  | none, some n, _ => if n < 0x10000000000000000 then .unsigned n else .text (String.ofList cs)
  | none, none, some n => if -0x8000000000000000 ≤ n then .signed n else .text (String.ofList cs)
  | none, none, none => .text (String.ofList cs)

def key? (cs : List Char) : Option (String × List Char) :=
  match cs with
  | '"' :: rest => quoted? rest
  | cs =>
    match cs.takeWhile isKeyChar with
    | [] => none
    | name => some (String.ofList name, cs.dropWhile isKeyChar)

mutual
/-- The value at the start of a text, blanks around it included, and what follows it. Every call
after the first stands behind a character of its own, which bounds the fuel. -/
def read? : Nat → List Char → Option (Value × List Char)
  | 0, _ => none
  | fuel + 1, cs =>
    let ended (r : Value × List Char) := (r.1, skipSpaces r.2)
    match skipSpaces cs with
    | 't' :: 'r' :: 'u' :: 'e' :: rest => some (ended (.bool true, rest))
    | 'f' :: 'a' :: 'l' :: 's' :: 'e' :: rest => some (ended (.bool false, rest))
    | '\x7b' :: rest =>
      (readMembers? fuel rest).map fun r => ended (.group (Json.ordered r.1), r.2)
    | '[' :: rest => (readItems? fuel rest).map fun r => ended (.list r.1, r.2)
    | '"' :: rest => (quoted? rest).map fun r => ended (.text r.1, r.2)
    | '\x27' :: c :: '\x27' :: rest => some (ended (.text (String.singleton c), rest))
    | '\x27' :: _ => none
    | cs =>
      let inWord (c : Char) := !isSeparator c
      some (word (trim (cs.takeWhile inWord)), cs.dropWhile inWord)

/-- The items of a list after its bracket or a comma. -/
def readItems? : Nat → List Char → Option (List Value × List Char)
  | 0, _ => none
  | fuel + 1, cs =>
    match cs with
    | ']' :: rest => some ([], rest)
    | cs =>
      match read? fuel cs with
      | some (v, ',' :: rest) => (readItems? fuel rest).map fun r => (v :: r.1, r.2)
      | some (v, ']' :: rest) => some ([v], rest)
      | _ => none

/-- The members of a group after its brace or a comma. -/
def readMembers? : Nat → List Char → Option (List (String × Value) × List Char)
  | 0, _ => none
  | fuel + 1, cs =>
    match cs with
    | '\x7d' :: rest => some ([], rest)
    | cs =>
      match key? (skipSpaces cs) with
      | none => none
      | some (name, rest) =>
        match skipSpaces rest with
        | '=' :: rest =>
          match read? fuel rest with
          | some (v, ',' :: rest) => (readMembers? fuel rest).map fun r => ((name, v) :: r.1, r.2)
          | some (v, '\x7d' :: rest) => some ([(name, v)], rest)
          | _ => none
        | _ => none
end

/-- The value a text stands for. -/
def ofText (s : String) : Value :=
  match read? (2 * s.length + 2) s.toList with
  | some (v, []) => v
  | _ => .text s

mutual
/-- Lays the second value over the first: groups are merged member by member, anything else is
replaced. -/
def overlay : Value → Value → Value
  | .group members, .group top => .group (overlayMembers members top)
  | _, top => top

/-- Both lists name each member once. -/
def overlayMembers (members : List (String × Value)) : List (String × Value) → List (String × Value)
  | [] => members
  | (name, v) :: rest =>
    let merged := match members.lookup name with
      | some old => overlay old v
      | none => v
    overlayMembers (Json.insertMember name merged members) rest
end

end Value

end Partitioning.Settings
