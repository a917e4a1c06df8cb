import Partitioning.Text.Blank

/-!
# Patterns

Regular expressions over characters. A pattern is matched one character at a time: behind a
character one of finitely many patterns has to go on matching. Conditions on places look at the
characters on both sides.
-/

namespace Partitioning.Text

namespace Pattern

/-- Classes of characters that have a name. -/
inductive CharClass where
  | digit
  | blank
  | word
  deriving DecidableEq

def isWordChar (c : Char) : Bool := c.isAlphanum || c == '_'

def CharClass.has (cls : CharClass) (c : Char) : Bool :=
  match cls with
  | .digit => c.isDigit
  | .blank => isBlank c
  | .word => isWordChar c

inductive CharItem where
  | range (low high : Char)
  | members (cls : CharClass) (inside : Bool)
  deriving DecidableEq

def CharItem.has (item : CharItem) (c : Char) : Bool :=
  match item with
  | .range low high => low ≤ c && c ≤ high
  | .members cls inside => cls.has c == inside

/-- The characters that are in one of the items, or those that are in none. -/
structure CharSet where
  items : List CharItem
  negated : Bool := false
  deriving DecidableEq

def CharSet.has (s : CharSet) (c : Char) : Bool :=
  s.items.any (·.has c) != s.negated

/-- A condition on the place between two characters, either of which may be missing. -/
inductive Place where
  | start
  | finish
  | wordEdge
  | wordInside
  deriving DecidableEq

def Place.holds (place : Place) (before after : Option Char) : Bool :=
  match place with
  | .start => before.isNone
  | .finish => after.isNone
  | .wordEdge => before.any isWordChar != after.any isWordChar
  | .wordInside => before.any isWordChar == after.any isWordChar

end Pattern

open Pattern

inductive Pattern where
  | empty
  | place (place : Place)
  | one (set : CharSet)
  | seq (p q : Pattern)
  | either (p q : Pattern)
  | star (p : Pattern)
  deriving DecidableEq

namespace Pattern

/-- Whether the pattern matches the empty text at a place. -/
def matchesEmpty (before after : Option Char) : Pattern → Bool
  | empty => true
  | place p => p.holds before after
  | one _ => false
  | seq p q => p.matchesEmpty before after && q.matchesEmpty before after
  | either p q => p.matchesEmpty before after || q.matchesEmpty before after
  | star _ => true

def seqOf : Pattern → Pattern → Pattern
  | empty, q => q
  | p, empty => p
  | p, q => seq p q

/-- The patterns one of which has to go on matching behind `c`. -/
def behind (before : Option Char) (c : Char) : Pattern → List Pattern
  | empty | place _ => []
  | one set => if set.has c then [empty] else []
  | seq p q =>
    let first := (p.behind before c).map (seqOf · q)
    if p.matchesEmpty before (some c) then first ++ q.behind before c else first
  | either p q => p.behind before c ++ q.behind before c
  | star p => (p.behind before c).map (seqOf · (star p))

/-- Whether one of the patterns `begun` goes on matching from a place, or `p` matches from there or
from a later place. -/
def matchesFrom (p : Pattern) (begun : List Pattern) (before : Option Char) : List Char → Bool
  | [] => (p :: begun).any (·.matchesEmpty before none)
  | c :: rest =>
    (p :: begun).any (·.matchesEmpty before (some c)) ||
      p.matchesFrom ((p :: begun).flatMap (·.behind before c)).eraseDups (some c) rest

/-- Whether the pattern matches some part of the text. -/
def occursIn (p : Pattern) (text : List Char) : Bool :=
  p.matchesFrom [] none text

/-- Between `low` and `low + extra` matches in a row, or any number from `low` on. -/
def repeated (p : Pattern) (low : Nat) (extra : Option Nat) : Pattern :=
  let more := match extra with
    | none => star p
    | some n => n.repeat (fun q => either empty (seqOf p q)) empty
  low.repeat (seqOf p) more

end Pattern

end Partitioning.Text
