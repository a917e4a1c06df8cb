import Partitioning.Text.LetterCase

/-!
# Lower case

Full lower-casing of a text. Two letters need more than the one-to-one mappings: the dotted
capital I keeps its dot as a second character, and a capital sigma that ends a word takes
the final form.
-/

namespace Partitioning.Text

/-- The lower case of a character taken alone. -/
def lowerChar (c : Char) : List Char :=
  if c.toNat < 0x80 then [c.toLower]
  else if c.toNat = 0x130 then ['i', Char.ofNat 0x307]
  else
    match lowerRuns.find? (·.covers c.toNat) with
    | some run => [Char.ofNat ((c.toNat : Int) + run.shift).toNat]
    | none => [c]

/-- Whether the first character that is not ignored for case is a letter with case. -/
def meetsCased (cs : List Char) : Bool :=
  match cs.dropWhile fun c => inRanges caseIgnorableRanges c.toNat with
  | [] => false
  | c :: _ => inRanges casedRanges c.toNat

/-- The lower case of `c` between the text `before` it, nearest character first, and the text
`after` it. -/
def lowerAt (before : List Char) (c : Char) (after : List Char) : List Char :=
  if c.toNat = 0x3A3 then
    if meetsCased before && !meetsCased after then [Char.ofNat 0x3C2] else [Char.ofNat 0x3C3]
  else lowerChar c

def lowerFrom (before : List Char) : List Char → List Char
  | [] => []
  | c :: after => lowerAt before c after ++ lowerFrom (c :: before) after

def lower (s : String) : String :=
  String.ofList (lowerFrom [] s.toList)

/-- Lower case of the ASCII letters only. -/
def lowerAscii (cs : List Char) : List Char :=
  cs.map Char.toLower

end Partitioning.Text
