import Partitioning.Json.Fault
import Partitioning.Json.Number
import Partitioning.Text.Numeral

/-!
# Tokens of JSON texts

A text is read in one of two ways. A strict reading wants the value of a token; a lenient one only
wants to get past it, so it accepts surrogate escapes that stand for no character and numbers of
any size. A token carries the outcome of both.
-/

namespace Partitioning.Json

open Text

/-- A value without parts. -/
inductive Scalar where
  | null
  | bool (b : Bool)
  | number (n : Number)
  | string (s : String)

/-- `unreadable` is a whole token without a value, `broken` one that does not end as it should;
`quoted` tells whether it starts as a string. -/
inductive Token where
  | openList
  | closeList
  | openObject
  | closeObject
  | comma
  | colon
  | scalar (s : Scalar)
  | unreadable (quoted : Bool) (fault : Fault)
  | broken (quoted : Bool) (strict lenient : Fault)
  | stray

namespace Token

/-- A character of a string, or a code unit written as four hexadecimal digits. -/
inductive StringPart where
  | char (c : Char)
  | unit (n : Nat)

inductive StringEnd where
  | closed (rest : List Char)
  | broken (fault : Fault) (inHex : Bool)

def simpleEscape? : Char → Option Char
  | '"' => some '"'
  | '\\' => some '\\'
  | '/' => some '/'
  | 'b' => some (Char.ofNat 8)
  | 'f' => some (Char.ofNat 12)
  | 'n' => some '\n'
  | 'r' => some '\r'
  | 't' => some '\t'
  | _ => none

def utf8Length (cs : List Char) : Nat :=
  cs.foldl (fun n c => n + c.utf8Size) 0

/-- The parts of a string after its opening quote. -/
def stringParts : List Char → List StringPart × StringEnd
  | [] => ([], .broken .endInString false)
  | '"' :: rest => ([], .closed rest)
  | '\\' :: 'u' :: a :: b :: c :: d :: rest =>
    match Numeral.ofHex? [a, b, c, d] with
    | some n =>
      let more := stringParts rest
      (.unit n :: more.1, more.2)
    | none => ([], .broken .invalidEscape true)
  | '\\' :: 'u' :: rest =>
    ([], .broken (if utf8Length rest < 4 then .endInString else .invalidEscape) true)
  | '\\' :: c :: rest =>
    match simpleEscape? c with
    | some x =>
      let more := stringParts rest
      (.char x :: more.1, more.2)
    | none => ([], .broken .invalidEscape false)
  | ['\\'] => ([], .broken .endInString false)
  | c :: rest =>
    if c.toNat < 0x20 then ([], .broken .controlCharacter false)
    else
      let more := stringParts rest
      (.char c :: more.1, more.2)

def isLead (n : Nat) : Bool := 0xD800 ≤ n && n ≤ 0xDBFF

def isTrail (n : Nat) : Bool := 0xDC00 ≤ n && n ≤ 0xDFFF

/-- The fault of a leading surrogate that is the last part of a string. -/
def StringEnd.afterLead : StringEnd → Fault
  | .broken .endInString _ => .endInString
  | .broken fault true => fault
  | _ => .unfinishedEscape

/-- The characters of a string: surrogates have to come in pairs. -/
def characters (ending : StringEnd) : List StringPart → Except Fault (List Char)
  | [] => .ok []
  | .char c :: rest => (characters ending rest).map (c :: ·)
  | .unit n :: .unit m :: rest =>
    if isTrail n then .error .loneSurrogate
    else if isLead n then
      if isTrail m then
        (characters ending rest).map
          (Char.ofNat (0x10000 + (n - 0xD800) * 0x400 + (m - 0xDC00)) :: ·)
      else .error .loneSurrogate
    else (characters ending (.unit m :: rest)).map (Char.ofNat n :: ·)
  | .unit n :: rest =>
    if isTrail n then .error .loneSurrogate
    else if isLead n then
      match rest with
      | [] => .error ending.afterLead
      | _ => .error .unfinishedEscape
    else (characters ending rest).map (Char.ofNat n :: ·)

/-- The string token after an opening quote, and what follows it. -/
def readString (cs : List Char) : Token × List Char :=
  let parts := stringParts cs
  match characters parts.2 parts.1, parts.2 with
  | .ok s, .closed rest => (.scalar (.string (String.ofList s)), rest)
  | .error fault, .closed rest => (.unreadable true fault, rest)
  | .ok _, .broken fault _ => (.broken true fault fault, [])
  | .error strict, .broken fault _ => (.broken true strict fault, [])

def digits (cs : List Char) : List Char × List Char :=
  (cs.takeWhile Char.isDigit, cs.dropWhile Char.isDigit)

/-- A place where a digit is missing: a strict reading tells the end of the text apart. -/
def digitMissing (cs : List Char) : Token :=
  .broken false (if cs.isEmpty then .endInValue else .invalidNumber) .invalidNumber

def readExponent (cs : List Char) : Except Token (Option (Bool × List Char) × List Char) :=
  let signed (down : Bool) (cs : List Char) :=
    match digits cs with
    | ([], rest) => .error (digitMissing rest)
    | (power, rest) => .ok (some (down, power), rest)
  match cs with
  | 'e' :: '-' :: rest | 'E' :: '-' :: rest => signed true rest
  | 'e' :: '+' :: rest | 'E' :: '+' :: rest => signed false rest
  | 'e' :: rest | 'E' :: rest => signed false rest
  | cs => .ok (none, cs)

def readFraction (cs : List Char) : Except Token (Option (List Char) × List Char) :=
  match cs with
  | '.' :: rest =>
    match digits rest with
    | ([], rest) => .error (digitMissing rest)
    | (places, rest) => .ok (some places, rest)
  | cs => .ok (none, cs)

/-- Whole digits: a leading zero stands alone. -/
def readWhole (cs : List Char) : Except Token (List Char × List Char) :=
  match digits cs with
  | ([], rest) => .error (digitMissing rest)
  | ('0' :: _ :: _, _) => .error (.broken false .invalidNumber .invalidNumber)
  | (whole, rest) => .ok (whole, rest)

/-- The number token after an optional minus sign, and what follows it. -/
def readNumber (negative : Bool) (cs : List Char) : Token × List Char :=
  let spelled : Except Token (Spelling × List Char) := do
    let (whole, rest) ← readWhole cs
    let (fraction, rest) ← readFraction rest
    let (exponent, rest) ← readExponent rest
    pure (⟨negative, whole, fraction, exponent⟩, rest)
  match spelled with
  | .error token => (token, [])
  | .ok (spelling, rest) =>
    match Number.ofSpelling? spelling with
    | some n => (.scalar (.number n), rest)
    | none => (.unreadable false .numberOutOfRange, rest)

/-- The token `word`, whose value is `s`, if the text starts with it. -/
def readWord (s : Scalar) : List Char → List Char → Token × List Char
  | [], rest => (.scalar s, rest)
  | _ :: _, [] => (.broken false .endInValue .endInValue, [])
  | w :: word, c :: rest =>
    if w = c then readWord s word rest
    else (.broken false .identifierExpected .identifierExpected, [])

/-- The token that starts with `c`, and what follows it. -/
def readFrom (c : Char) (rest : List Char) : Token × List Char :=
  match c with
  | '[' => (.openList, rest)
  | ']' => (.closeList, rest)
  | '\x7b' => (.openObject, rest)
  | '\x7d' => (.closeObject, rest)
  | ',' => (.comma, rest)
  | ':' => (.colon, rest)
  | '"' => readString rest
  | '-' => readNumber true rest
  | 'n' => readWord .null ['u', 'l', 'l'] rest
  | 't' => readWord (.bool true) ['r', 'u', 'e'] rest
  | 'f' => readWord (.bool false) ['a', 'l', 's', 'e'] rest
  | c => if c.isDigit then readNumber false (c :: rest) else (.stray, [])

def isSpace (c : Char) : Bool :=
  c == ' ' || c == '\n' || c == '\t' || c == '\r'

/-- The tokens of a text up to the first one that cannot be passed. Every token takes at least one
character, so the length of the text bounds their number. -/
def scan : Nat → List Char → List Token
  | 0, _ => []
  | fuel + 1, cs =>
    match cs.dropWhile isSpace with
    | [] => []
    | c :: rest =>
      let token := readFrom c rest
      token.1 :: scan fuel token.2

def ofText (s : String) : List Token :=
  scan s.length s.toList

end Token

end Partitioning.Json
