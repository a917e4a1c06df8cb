import Partitioning.Json.Document
import Partitioning.Text.Quoted
import Partitioning.Width

/-!
# Readers

A reader takes a document to a value of the domain. It goes through a container part by part and
stops at the first part that is wrong, so of several defects the earliest in the document is the
one reported.
-/

namespace Partitioning.Json

/-- What a reader met where it expected something else. -/
inductive Found where
  | null
  | bool (b : Bool)
  | number (n : Number)
  | string (s : String)
  | list
  | object
  deriving DecidableEq

/-- What was found, as messages call it. -/
def Found.text : Found → String
  | .null => "null"
  | .bool b => s!"boolean `{b}`"
  | .number (.integer n) => s!"integer `{n}`"
  | .number n => s!"floating point `{n.text}`"
  | .string s => s!"string {Text.Quoted.encode s}"
  | .list => "sequence"
  | .object => "map"

/-- Why data was not read. -/
inductive ReadError where
  /-- The text is not JSON. -/
  | fault (fault : Fault)
  | wrongType (found : Found) (expected : String)
  | wrongValue (found : Found) (expected : String)
  | wrongLength (length : Nat) (expected : String)
  | missingField (name : String)
  | duplicateField (name : String)
  /-- No form of the union `name` fits. -/
  | noForm (name : String)
  /-- The value is well formed and the domain refuses it. -/
  | refused (message : String)
  deriving DecidableEq

def ReadError.message : ReadError → String
  | .fault f => f.message
  | .wrongType found expected => s!"invalid type: {found.text}, expected {expected}"
  | .wrongValue found expected => s!"invalid value: {found.text}, expected {expected}"
  | .wrongLength n expected => s!"invalid length {n}, expected {expected}"
  | .missingField name => s!"missing field `{name}`"
  | .duplicateField name => s!"duplicate field `{name}`"
  | .noForm name => s!"data did not match any variant of untagged enum {name}"
  | .refused message => message

abbrev Reader (α : Type) := Document → Except ReadError α

namespace Reader

/-- The error of a reader that expected something else than this document. -/
def mismatch (expected : String) : Document → ReadError
  | .scalar .null => .wrongType .null expected
  | .scalar (.bool b) => .wrongType (.bool b) expected
  | .scalar (.number n) => .wrongType (.number n) expected
  | .scalar (.string s) => .wrongType (.string s) expected
  | .array _ _ => .wrongType .list expected
  | .object _ _ => .wrongType .object expected
  | .unreadable fault => .fault fault
  | .broken strict _ => .fault strict

/-- A text. -/
def string : Reader String
  | .scalar (.string s) => .ok s
  | d => .error (mismatch "a string" d)

/-- A truth value. -/
def bool : Reader Bool
  | .scalar (.bool b) => .ok b
  | d => .error (mismatch "a boolean" d)

/-- A number without fraction and exponent that fits. -/
def integer {α : Type} (fit : Int → Option α) (expected : String) : Reader α
  | .scalar (.number (.integer n)) =>
    match fit n with
    | some a => .ok a
    | none => .error (.wrongValue (.number (.integer n)) expected)
  | d => .error (mismatch expected d)

def int32 : Reader Int32 := integer Width.int32? "i32"

def int64 : Reader Int64 := integer Width.int64? "i64"

/-- The given word and nothing else. -/
def word (w : String) : Reader Unit
  | .scalar (.string s) =>
    if s = w then .ok () else .error (.wrongValue (.string s) s!"string {Text.Quoted.encode w}")
  | d => .error (mismatch s!"string {Text.Quoted.encode w}" d)

/-- `null` is read as nothing. -/
def optional {α : Type} (r : Reader α) : Reader (Option α)
  | .scalar .null => .ok none
  | d => (r d).map some

/-- A value read strictly, in canonical form. -/
def json : Reader Json := fun d =>
  match d.toJson with
  | .ok j => .ok j.canonical
  | .error f => .error (.fault f)

/-- Fails when the data ends too early or goes wrong. -/
def endOf (ending : Ending) : Except ReadError Unit :=
  match ending.strict? with
  | some fault => .error (.fault fault)
  | none => .ok ()

/-- Reads items one by one; the first one that is refused decides. -/
def listItems {α : Type} (r : Reader α) (ending : Ending) :
    List Document → Except ReadError (List α)
  | [] => (endOf ending).map fun _ => []
  | d :: rest => do
      let a ← r d
      let more ← listItems r ending rest
      pure (a :: more)

/-- All items of a list. -/
def list {α : Type} (r : Reader α) : Reader (List α)
  | .array items ending => listItems r ending items
  | d => .error (mismatch "a sequence" d)

/-- Reads members one by one; the first one that is refused decides. -/
def mapMembers {α : Type} (r : Reader α) (ending : Ending) :
    List (Except Fault String × Document) → Except ReadError (List (String × α))
  | [] => (endOf ending).map fun _ => []
  | (.error fault, _) :: _ => .error (.fault fault)
  | (.ok key, d) :: rest => do
      let a ← r d
      let more ← mapMembers r ending rest
      pure ((key, a) :: more)

/-- A map with any keys; the last of several members with one key counts. -/
def map {α : Type} (r : Reader α) : Reader (List (String × α))
  | .object members ending => (mapMembers r ending members).map ordered
  | d => .error (mismatch "a map" d)

/-- A field of a record: its name, the test its document has to pass, and whether it may be left
out at the end of a record that is written as a list. -/
structure Slot where
  name : String
  check : Reader Unit
  omissible : Bool

/-- A field that a record written as a list cannot leave out. -/
def Slot.of {α : Type} (name : String) (r : Reader α) : Slot :=
  ⟨name, fun d => (r d).map fun _ => (), false⟩

/-- A field that such a record can leave out at its end. -/
def Slot.defaulted {α : Type} (name : String) (r : Reader α) : Slot :=
  ⟨name, fun d => (r d).map fun _ => (), true⟩

/-- A record's fields by name. -/
abbrev Fields := List (String × Document)

/-- Collects the fields of a record written as an object. Unknown members are skipped and a known
one may occur once. -/
def objectFields (slots : List Slot) (ending : Ending) (seen : Fields) :
    List (Except Fault String × Document) → Except ReadError Fields
  | [] => (endOf ending).map fun _ => seen
  | (.error fault, _) :: _ => .error (.fault fault)
  | (.ok key, d) :: rest =>
    match slots.find? (·.name == key) with
    | none =>
      match d.skipFault? with
      | some fault => .error (.fault fault)
      | none => objectFields slots ending seen rest
    | some slot =>
      if seen.any (·.1 == key) then .error (.duplicateField key) else do
        slot.check d
        objectFields slots ending (seen ++ [(key, d)]) rest

/-- The end of a record of `length` items written as a list, of which `left` are too many. -/
def listEnd (length : Nat) (ending : Ending) (left : List Document) : Except ReadError Unit :=
  match left, ending with
  | [], .broken .listSeparatorExpected _ => .error (.fault .trailingCharacters)
  | [], ending => endOf ending
  | _, .known => .error (.wrongLength length "fewer elements in array")
  | .broken .trailingComma _ :: _, _ => .error (.fault .trailingComma)
  | _, _ => .error (.fault .trailingCharacters)

/-- Collects the fields of a record written as a list, in the order of the slots. -/
def listFields (expected : String) (length : Nat) (ending : Ending) :
    Nat → List Slot → List Document → Except ReadError Fields
  | _, [], left => (listEnd length ending left).map fun _ => []
  | index, slot :: slots, [] => do
      endOf ending
      if slot.omissible then listFields expected length ending (index + 1) slots []
      else .error (.wrongLength index expected)
  | index, slot :: slots, d :: rest => do
      slot.check d
      let more ← listFields expected length ending (index + 1) slots rest
      pure ((slot.name, d) :: more)

/-- The fields of the record `title`, which may be written as an object or as a list. -/
def record (title : String) (slots : List Slot) : Reader Fields
  | .object members ending => objectFields slots ending [] members
  | .array items ending =>
    listFields s!"struct {title} with {slots.length} elements" items.length ending 0 slots items
  | d => .error (mismatch s!"struct {title}" d)

/-- A field that has to be there. -/
def Fields.get {α : Type} (fields : Fields) (name : String) (r : Reader α) : Except ReadError α :=
  match fields.lookup name with
  | some d => r d
  | none => .error (.missingField name)

/-- A field that may be missing. -/
def Fields.getD {α : Type} (fields : Fields) (name : String) (r : Reader α) (default : α) :
    Except ReadError α :=
  match fields.lookup name with
  | some d => r d
  | none => .ok default

end Reader

/-- Reads a value. -/
def readValue {α : Type} (r : Reader α) (j : Json) : Except ReadError α :=
  r (Document.ofJson j)

/-- Reads a text: wrong data is reported before anything that follows it. -/
def readText {α : Type} (r : Reader α) (s : String) : Except ReadError α := do
  let (d, more) := Document.ofText s
  let a ← r d
  if more then .error (.fault .trailingCharacters) else pure a

end Partitioning.Json
