/-!
# Enclosed texts

Cutting a text at fixed words and at single characters.
-/

namespace Partitioning.Text

/-- What stands between the word `before` at the start of a text and the word `after` at its
end. -/
def between? (before after cs : List Char) : Option (List Char) :=
  (before.isPrefixOf? cs).bind after.isSuffixOf?

/-- The parts before and after the first `c`. -/
def cutAt? (c : Char) : List Char → Option (List Char × List Char)
  | [] => none
  | x :: rest => if x = c then some ([], rest) else (cutAt? c rest).map fun p => (x :: p.1, p.2)

/-- The parts of a text between the characters `c`, at least one. -/
def splitAt (c : Char) : List Char → List (List Char)
  | [] => [[]]
  | x :: rest =>
    match splitAt c rest with
    | [] => [[x]]
    | part :: parts => if x = c then [] :: part :: parts else (x :: part) :: parts

end Partitioning.Text
