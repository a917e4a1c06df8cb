import Partitioning.Settings.Value
import Partitioning.Text.Enclosed
import Partitioning.Text.Lowercase
import Partitioning.Width

/-!
# Settings

The defaults, and what environment variables say instead. A variable `KEEL__A__B` sets the key `b`
in the group `a`; letter case does not matter, and later variables win over earlier ones.
-/

namespace Partitioning

/-- How declarations are resolved. -/
structure PartitionSettings where
  caseSensitive : Bool
  firstFieldId : Int32
  deriving DecidableEq

/-- What is logged. -/
structure LoggingSettings where
  defaultFilter : String
  deriving DecidableEq

structure Settings where
  partition : PartitionSettings
  logging : LoggingSettings
  deriving DecidableEq

/-- The path of an error leads from the root to the value. -/
inductive SettingsError where
  | wrongType (found : Settings.Value) (expected : String) (path : List String)
  | wrongValue (found : Settings.Value) (expected : String) (path : List String)
  | wrongLength (length : Nat) (expected : String) (path : List String)
  | missingField (name : String) (path : List String)

namespace Settings

open Text

/-- The start of the names of all variables that are settings. -/
def namePart : List Char := "keel__".toList

end Settings

namespace SettingsError

open Text

/-- Where the value that was refused stands. -/
def path : SettingsError → List String
  | wrongType _ _ path | wrongValue _ _ path | wrongLength _ _ path | missingField _ path => path

/-- What is wrong there. -/
def cause : SettingsError → String
  | wrongType found expected _ => s!"invalid type: found {found.describe}, expected {expected}"
  | wrongValue found expected _ => s!"invalid value {found.describe}, expected {expected}"
  | wrongLength n expected _ => s!"invalid length {n}, expected {expected}"
  | missingField name _ => s!"missing field `{name}`"

def upper (s : String) : List Char := s.toList.map Char.toUpper

def message (e : SettingsError) : String :=
  let key := String.ofList ((e.path.map upper).intersperse ['.']).flatten
  let start := String.ofList (Settings.namePart.map Char.toUpper)
  s!"{e.cause} for key {Quoted.encode key} in `{start}` environment variable(s)"

end SettingsError

namespace Settings

open Text (lowerAscii trim splitAt)

/-- Two underscores separate the parts of a key. -/
def separated : List Char → List Char
  | '_' :: '_' :: rest => '.' :: separated rest
  | c :: rest => c :: separated rest
  | [] => []

/-- The key a variable sets. A key has no empty part. -/
def key? (name : String) : Option (List String) := do
  let rest ← namePart.isPrefixOf? (lowerAscii (trim name.toList))
  let parts := splitAt '.' (trim (separated rest))
  guard (parts.all fun part => !part.isEmpty)
  pure (parts.map String.ofList)

/-- A value alone inside the groups of a path. -/
def nest (path : List String) (v : Value) : Value :=
  path.foldr (fun name inner => .group [(name, inner)]) v

/-- The groups that a list of variables sets. -/
def ofVariables (vars : List (String × String)) : Value :=
  vars.foldl (fun done v =>
    match key? v.1 with
    | some path => done.overlay (nest path (Value.ofText v.2))
    | none => done) (.group [])

def defaults : Value :=
  .group [
    ("logging", .group [("default_filter", .text "info")]),
    ("partition", .group [("case_sensitive", .bool false), ("first_field_id", .unsigned 1000)])]

abbrev Reader (α : Type) := List String → Value → Except SettingsError α

def bool : Reader Bool
  | _, .bool b => .ok b
  | path, v => .error (.wrongType v "a boolean" path)

def text : Reader String
  | _, .text s => .ok s
  | path, v => .error (.wrongType v "a string" path)

def int32 : Reader Int32 := fun path v =>
  let fit (n : Int) : Except SettingsError Int32 :=
    match Width.int32? n with
    | some i => .ok i
    | none => .error (.wrongValue v "i32" path)
  match v with
  | .unsigned n => fit n
  | .signed n => fit n
  | v => .error (.wrongType v "i32" path)

/-- The part `name` of a group, or the part at `index` of a list that stands for the group. -/
def part {α : Type} (title : String) (size : Nat) (path : List String) (v : Value)
    (index : Nat) (name : String) (r : Reader α) : Except SettingsError α :=
  match v with
  | .group members =>
    match members.lookup name with
    | some inner => r (path ++ [name]) inner
    | none => .error (.missingField name path)
  | .list items =>
    match items[index]? with
    | some inner => r (path ++ [toString index]) inner
    | none =>
      let plural := if size = 1 then "element" else "elements"
      .error (.wrongLength index s!"struct {title} with {size} {plural}" path)
  | v => .error (.wrongType v s!"struct {title}" path)

def partitionSettings : Reader PartitionSettings := fun path v => do
  let caseSensitive ← part "PartitionConfig" 2 path v 0 "case_sensitive" bool
  let firstFieldId ← part "PartitionConfig" 2 path v 1 "first_field_id" int32
  pure { caseSensitive, firstFieldId }

def loggingSettings : Reader LoggingSettings := fun path v => do
  let defaultFilter ← part "LoggingConfig" 1 path v 0 "default_filter" text
  pure { defaultFilter }

/-- The settings under a list of variables, names and values. -/
def load (vars : List (String × String)) : Except SettingsError Settings := do
  let v := defaults.overlay (ofVariables vars)
  let logging ← part "AppConfig" 2 [] v 1 "logging" loggingSettings
  let partition ← part "AppConfig" 2 [] v 0 "partition" partitionSettings
  pure { partition, logging }

end Settings

end Partitioning
