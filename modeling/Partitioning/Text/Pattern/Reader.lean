import Partitioning.Text.Numeral
import Partitioning.Text.Pattern

/-!
# Reading patterns

The usual notation of regular expressions: literals, `.`, classes in brackets, groups, `|`, the
repetitions `*`, `+`, `?` and `{m,n}`, the places `^`, `$`, `\b` and escapes. Flags, named groups
and classes by Unicode property are not part of it.
-/

namespace Partitioning.Text

open Pattern

namespace PatternError

inductive Cause where
  | groupUnclosed
  | groupUnopened
  | groupUnknown
  | nothingToRepeat
  | countMissing
  | countUnclosed
  | countReversed
  | classUnclosed
  | rangeReversed
  | rangeWithoutEnd
  | escapeUnfinished
  | escapeUnknown
  deriving DecidableEq

def Cause.text : Cause → String
  | groupUnclosed => "unclosed group"
  | groupUnopened => "unopened group"
  | groupUnknown => "unrecognized flag"
  | nothingToRepeat => "repetition operator missing expression"
  | countMissing => "repetition quantifier expects a valid decimal"
  | countUnclosed => "unclosed counted repetition"
  | countReversed => "invalid repetition count range, the start must be <= the end"
  | classUnclosed => "unclosed character class"
  | rangeReversed => "invalid character class range, the start must be <= the end"
  | rangeWithoutEnd => "invalid range boundary, must be a literal"
  | escapeUnfinished => "incomplete escape sequence, reached end of pattern prematurely"
  | escapeUnknown => "unrecognized escape sequence"

end PatternError

/-- A cause and the part of the pattern it is about: how many characters stand from its start to
the end of the pattern, and its length. -/
structure PatternError where
  cause : PatternError.Cause
  left : Nat
  length : Nat

/-- The pattern with a mark under the part the error is about, and the cause. -/
def PatternError.message (e : PatternError) (pattern : List Char) : String :=
  let margin := List.replicate 4 ' '
  let mark := List.replicate (pattern.length - e.left) ' ' ++ List.replicate (max 1 e.length) '^'
  "regex parse error:\n" ++ String.ofList (margin ++ pattern ++ '\n' :: margin ++ mark) ++
    "\nerror: " ++ e.cause.text

namespace Pattern

/-- What an escaped character stands for. -/
inductive Escape where
  | char (c : Char)
  | members (cls : CharClass) (inside : Bool)
  | place (place : Place)

def Escape.ofChar? : Char → Option Escape
  | 'd' => some (.members .digit true)
  | 'D' => some (.members .digit false)
  | 's' => some (.members .blank true)
  | 'S' => some (.members .blank false)
  | 'w' => some (.members .word true)
  | 'W' => some (.members .word false)
  | 'b' => some (.place .wordEdge)
  | 'B' => some (.place .wordInside)
  | 'A' => some (.place .start)
  | 'z' => some (.place .finish)
  | 'a' => some (.char (Char.ofNat 7))
  | 'f' => some (.char (Char.ofNat 12))
  | 't' => some (.char '\t')
  | 'n' => some (.char '\n')
  | 'r' => some (.char '\r')
  | 'v' => some (.char (Char.ofNat 11))
  | c => if c.toNat < 128 ∧ !c.isAlphanum ∧ c ≠ '<' ∧ c ≠ '>' then some (.char c) else none

def literal (c : Char) : Pattern := one { items := [.range c c] }

def anyButNewline : Pattern := one { items := [.range '\n' '\n'], negated := true }

def Escape.pattern : Escape → Pattern
  | .char c => literal c
  | .members cls inside => one { items := [.members cls inside] }
  | .place p => Pattern.place p

/-- One end of a range in a class, and what follows it. -/
def classItem : List Char → Except PatternError (CharItem × List Char)
  | '\\' :: c :: rest =>
    match Escape.ofChar? c with
    | some (.char c) => .ok (.range c c, rest)
    | some (.members cls inside) => .ok (.members cls inside, rest)
    | _ => .error ⟨.escapeUnknown, rest.length + 2, 2⟩
  | ['\\'] => .error ⟨.escapeUnfinished, 1, 1⟩
  | c :: rest => .ok (.range c c, rest)
  | [] => .error ⟨.classUnclosed, 0, 1⟩

/-- The items of a class up to its bracket, which stands `left` characters before the end of the
pattern when it opens. -/
def classItems (left : Nat) : Nat → List Char → Except PatternError (List CharItem × List Char)
  | 0, _ => .error ⟨.classUnclosed, left, 1⟩
  | fuel + 1, cs =>
    match cs with
    | [] => .error ⟨.classUnclosed, left, 1⟩
    | ']' :: rest => .ok ([], rest)
    | cs => do
      let (low, rest) ← classItem cs
      match low, rest with
      | .range low _, '-' :: ']' :: rest => .ok ([.range low low, .range '-' '-'], rest)
      | .range low _, '-' :: rest => do
        if rest.isEmpty then .error ⟨.classUnclosed, left, 1⟩ else
        let (high, rest) ← classItem rest
        match high with
        | .range high _ =>
          if low ≤ high then do
            let (more, rest) ← classItems left fuel rest
            pure (.range low high :: more, rest)
          else .error ⟨.rangeReversed, cs.length, cs.length - rest.length⟩
        | .members _ _ => .error ⟨.rangeWithoutEnd, cs.length, cs.length - rest.length⟩
      | item, rest => do
        let (more, rest) ← classItems left fuel rest
        pure (item :: more, rest)

/-- A class behind its opening bracket. A closing bracket that comes first is a literal. -/
def charSet (cs : List Char) : Except PatternError (CharSet × List Char) := do
  let left := cs.length + 1
  let (negated, body) := match cs with
    | '^' :: rest => (true, rest)
    | rest => (false, rest)
  let (first, body) := match body with
    | ']' :: rest => ([CharItem.range ']' ']'], rest)
    | rest => ([], rest)
  let (items, rest) ← classItems left (body.length + 1) body
  pure ({ items := first ++ items, negated }, rest)

/-- The bounds of a counted repetition behind its brace. -/
def counts (cs : List Char) : Except PatternError ((Nat × Option Nat) × List Char) :=
  let left := cs.length + 1
  let number (cs : List Char) := (cs.takeWhile Char.isDigit, cs.dropWhile Char.isDigit)
  let missing (rest : List Char) : PatternError :=
    if rest.isEmpty then ⟨.countUnclosed, left, left⟩ else ⟨.countMissing, rest.length, 1⟩
  let (low, rest) := number cs
  match Numeral.natural? low with
  | none => .error (missing rest)
  | some n =>
    match rest with
    | '\x7d' :: rest => .ok ((n, some 0), rest)
    | ',' :: '\x7d' :: rest => .ok ((n, none), rest)
    | ',' :: rest =>
      let (high, rest) := number rest
      match Numeral.natural? high, rest with
      | none, rest => .error (missing rest)
      | some m, '\x7d' :: rest =>
        if n ≤ m then .ok ((n, some (m - n)), rest)
        else .error ⟨.countReversed, left, left - rest.length⟩
      | some _, rest => .error ⟨.countUnclosed, left, left - rest.length⟩
    | rest => .error ⟨.countUnclosed, left, left - rest.length⟩

/-- A group in the making: its finished alternatives, the parts of the one it is at, last part
first, and where its parenthesis stands. -/
structure Frame where
  alternatives : Option Pattern := none
  parts : List Pattern := []
  left : Nat := 0

namespace Frame

def alternative (f : Frame) : Pattern :=
  f.parts.foldl (fun q p => seqOf p q) empty

def pattern (f : Frame) : Pattern :=
  match f.alternatives with
  | none => f.alternative
  | some p => either p f.alternative

def add (f : Frame) (p : Pattern) : Frame := { f with parts := p :: f.parts }

def split (f : Frame) : Frame := { f with alternatives := some f.pattern, parts := [] }

end Frame

/-- What follows a repetition: a question mark only asks for the shortest match. -/
def afterRepetition : List Char → List Char
  | '?' :: rest => rest
  | rest => rest

/-- Repeats the last part of a group. -/
def repeatLast (f : Frame) (left length : Nat) (times : Pattern → Pattern) :
    Except PatternError Frame :=
  match f.parts with
  | [] => .error ⟨.nothingToRepeat, left, length⟩
  | p :: parts => .ok { f with parts := times p :: parts }

/-- Reads on inside the groups `outer`, innermost first. Every step takes a character. -/
def readFrom (outer : List Frame) (f : Frame) : Nat → List Char → Except PatternError Pattern
  | 0, _ => .ok f.pattern
  | fuel + 1, cs =>
    let left := cs.length
    match cs with
    | [] =>
      match outer with
      | [] => .ok f.pattern
      | _ => .error ⟨.groupUnclosed, f.left, 1⟩
    | '(' :: '?' :: ':' :: rest => readFrom (f :: outer) { left } fuel rest
    | '(' :: '?' :: rest => .error ⟨.groupUnknown, rest.length, 1⟩
    | '(' :: rest => readFrom (f :: outer) { left } fuel rest
    | ')' :: rest =>
      match outer with
      | [] => .error ⟨.groupUnopened, left, 1⟩
      | g :: outer => readFrom outer (g.add f.pattern) fuel rest
    | '|' :: rest => readFrom outer f.split fuel rest
    | '*' :: rest => do
      let f ← repeatLast f left 1 (repeated · 0 none)
      readFrom outer f fuel (afterRepetition rest)
    | '+' :: rest => do
      let f ← repeatLast f left 1 (repeated · 1 none)
      readFrom outer f fuel (afterRepetition rest)
    | '?' :: rest => do
      let f ← repeatLast f left 1 (repeated · 0 (some 1))
      readFrom outer f fuel (afterRepetition rest)
    | '\x7b' :: rest => do
      if f.parts.isEmpty then .error ⟨.nothingToRepeat, left, 1⟩ else
      let ((low, extra), rest) ← counts rest
      let f ← repeatLast f left 1 (repeated · low extra)
      readFrom outer f fuel (afterRepetition rest)
    | '[' :: rest => do
      let (set, rest) ← charSet rest
      readFrom outer (f.add (one set)) fuel rest
    | '.' :: rest => readFrom outer (f.add anyButNewline) fuel rest
    | '^' :: rest => readFrom outer (f.add (.place .start)) fuel rest
    | '$' :: rest => readFrom outer (f.add (.place .finish)) fuel rest
    | ['\\'] => .error ⟨.escapeUnfinished, 1, 1⟩
    | '\\' :: c :: rest =>
      match Escape.ofChar? c with
      | some e => readFrom outer (f.add e.pattern) fuel rest
      | none => .error ⟨.escapeUnknown, left, 2⟩
    | c :: rest => readFrom outer (f.add (literal c)) fuel rest

/-- The pattern a text denotes. -/
def ofText (cs : List Char) : Except PatternError Pattern :=
  readFrom [] {} (cs.length + 1) cs

end Pattern

end Partitioning.Text
