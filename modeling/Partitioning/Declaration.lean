import Partitioning.PartitionError
import Partitioning.Text.Blank
import Partitioning.Text.Lowercase

/-!
# Partition declarations

The text in which a table's owner names a column and a transform of it:

    order_key
    year(ts)  month(ts)  day(ts)  hour(ts)  void(ts)
    bucket(order_key, 42)  truncate(comment, 13)

Keywords are read in any letter case and arguments with blanks around them. A text without
parentheses is the name of a column, blanks included.
-/

namespace Partitioning.Declaration

open Text

/-- The transforms of a column alone. -/
def calls : List Transform :=
  [.year, .month, .day, .hour, .void]

/-- A nonempty text without parentheses and commas. -/
def isArgument (cs : List Char) : Bool :=
  !cs.isEmpty && cs.all fun c => c != '(' && c != ')' && c != ','

/-- The column between the parentheses of a call with one argument. -/
def columnArgument? (call : List Char) : Option (List Char) := do
  let inner ← between? ['('] [')'] call
  guard (isArgument inner && !allBlank inner)
  pure (trim inner)

/-- The column and the number between the parentheses of a call with two arguments. -/
def columnAndNumber? (call : List Char) : Option (List Char × Int) := do
  let inner ← between? ['('] [')'] call
  let (column, number) ← cutAt? ',' inner
  guard (isArgument column && isArgument number && !allBlank column)
  let n ← (Numeral.signed? (trim number)).bind Width.int64?
  pure (trim column, n.toInt)

/-- A call with a parameter that has to be positive and to fit 32 bits. -/
def parameterCall (declaration : String) (call : List Char) (transform : UInt32 → Transform)
    (notPositive : Int → PartitionError) : Except PartitionError (String × Transform) :=
  match columnAndNumber? call with
  | none => .error (.malformed declaration)
  | some (column, n) =>
    if n ≤ 0 then .error (notPositive n)
    else
      match Width.uint32? n.toNat with
      | some parameter => .ok (String.ofList column, transform parameter)
      | none => .error (.malformed declaration)

/-- The column and the transform that a text declares. -/
def read (declaration : String) : Except PartitionError (String × Transform) :=
  let cs := declaration.toList
  match cutAt? '(' cs with
  | none =>
    if ')' ∈ cs ∨ allBlank cs then .error (.malformed declaration)
    else .ok (declaration, .identity)
  | some (before, after) =>
    let keyword := lowerAscii before
    let call := '(' :: after
    if keyword = "bucket".toList then parameterCall declaration call .bucket .bucketCount
    else if keyword = "truncate".toList then
      parameterCall declaration call .truncate .truncateWidth
    else
      match calls.find? (fun t => t.text.toList == keyword), columnArgument? call with
      | some t, some column => .ok (String.ofList column, t)
      | _, _ => .error (.malformed declaration)

/-- The text that declares a transform of a column: lower-case keyword, one space after the
comma. -/
def canonical (column : String) (t : Transform) : String :=
  match t with
  | .identity => column
  | .bucket n => s!"bucket({column}, {n.toNat})"
  | .truncate w => s!"truncate({column}, {w.toNat})"
  | t => s!"{t.text}({column})"

end Partitioning.Declaration
