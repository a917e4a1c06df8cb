import Partitioning.CommandLine.Arguments
import Partitioning.Logging
import Partitioning.PartitionSpec.Json
import Partitioning.Schema.Json
import Partitioning.Settings
import Partitioning.Table.Json

/-!
# The command line

A run is a value: either it is over, or it needs a file and goes on with the outcome of reading
it. The settings are looked at first, then the logger is started, then the arguments are read.
-/

namespace Partitioning.CommandLine

open Logging (Line Filter Record)

/-- What the program leaves behind when it ends. -/
structure Outcome where
  exitCode : Nat
  output : String
  diagnostics : List Line

/-- Why a file could not be read. -/
inductive FileError where
  | system (code : Nat) (kind description : String)
  | notText

/-- What a command does: it ends at once, or it needs a file first. -/
inductive Run where
  | done (o : Outcome)
  | needsFile (path : String) (next : Except FileError String → Outcome)

open Text

/-- An error as a diagnostic shows it: its category and, between parentheses, what it is about. -/
def shown (category detail : String) : String := s!"{category}({detail})"

def FileError.diagnostic : FileError → String
  | system code kind description =>
    s!"Os \x7b code: {code}, kind: {kind}, message: {Quoted.encode description} \x7d"
  | notText =>
    let description := "stream did not contain valid UTF-8"
    s!"Error \x7b kind: InvalidData, message: {Quoted.encode description} \x7d"

def readErrorDiagnostic (e : Json.ReadError) : String :=
  shown "Error" (Quoted.encode e.message)

def partitionErrorDiagnostic (e : PartitionError) : String :=
  match e with
  | .unresolvedColumn column => shown e.category (Quoted.encode column)
  | .missingSource id => shown e.category (toString id.toInt)
  | .reservedFirstId id => shown e.category (toString id.toInt)
  | .idsExhausted => e.category
  | e => shown e.category (Quoted.encode e.message)

def tableErrorDiagnostic (e : TableError) : String :=
  match e with
  | .partition e => shown "Partition" (partitionErrorDiagnostic e)
  | .schema e => shown "Schema" (shown "InvalidField" (Quoted.encode e.detail))
  | e => shown e.category (Quoted.encode e.detail)

def settingsErrorDiagnostic (e : SettingsError) : String :=
  shown "InvalidArgument" (Quoted.encode e.message)

/-- The end of a run that fails. -/
def failed (before : List Line) (diagnostic : String) : Outcome :=
  ⟨1, "", before ++ [.plain s!"Error: {diagnostic}"]⟩

def resolvedRecord (declaration : String) (f : UnboundField) : Record :=
  ⟨.debug, "keel_iceberg::partition_fields",
    s!"resolved partition field declaration `{declaration}` to {f.transform.text} " ++
      s!"on field {f.sourceId.toInt}"⟩

def readingRecord (path : String) : Record :=
  ⟨.debug, "keel::runner", s!"reading schema from {path}"⟩

def partitionedRecord (t : Table) (spec : PartitionSpec) : Record :=
  ⟨.debug, "keel_catalog::table_info",
    s!"table {t.qualifiedName} is partitioned by {spec.fields.length} field(s)"⟩

/-- The records of resolving declarations up to the first invalid one. -/
def resolvedRecords (r : Resolver) (schema : Schema) : List String → List Record
  | [] => []
  | d :: rest =>
    match r.resolve schema d with
    | .ok f => resolvedRecord d f :: resolvedRecords r schema rest
    | .error _ => []

/-- The records of resolving every valid declaration. -/
def validRecords (r : Resolver) (schema : Schema) (declarations : List String) : List Record :=
  declarations.filterMap fun d =>
    match r.resolve schema d with
    | .ok f => some (resolvedRecord d f)
    | .error _ => none

/-- The errors of all invalid declarations, each behind its declaration. -/
def defects (r : Resolver) (schema : Schema) (declarations : List String) : List String :=
  declarations.filterMap fun d =>
    match r.resolve schema d with
    | .ok _ => none
    | .error e => some s!"{d}: {e.message}"

/-- The canonical declarations, one a line, or the spec as indented JSON. -/
def rendered (schema : Schema) (spec : PartitionSpec) (json : Bool) :
    Except PartitionError String :=
  if json then .ok spec.toJson.pretty
  else (schema.declarations spec).map (String.intercalate "\n")

def runParse (filter : Filter) (lines : List Line) (r : Resolver) (c : ParseCommand)
    (schema : Schema) : Outcome :=
  let lines := lines ++ filter.lines (resolvedRecords r schema c.declarations)
  let output := do
    let spec ← r.resolveAll schema c.declarations
    rendered schema spec c.json
  match output with
  | .ok text => ⟨0, text ++ "\n", lines⟩
  | .error e => failed lines (partitionErrorDiagnostic e)

def runCheck (filter : Filter) (lines : List Line) (r : Resolver) (c : CheckCommand)
    (schema : Schema) : Outcome :=
  let found := defects r schema c.declarations
  let lines := lines ++ filter.lines (validRecords r schema c.declarations) ++ found.map .plain
  if found.isEmpty then ⟨0, "", lines⟩
  else failed lines (Quoted.encode s!"{found.length} invalid partition field declaration(s)")

/-- The records of computing a table's spec. -/
def tableRecords (r : Resolver) (t : Table) : List Record :=
  match t.declarations?, t.schema with
  | .ok (some declarations), .ok schema =>
    resolvedRecords r schema declarations ++
      match t.partitionSpec r with
      | .ok spec => [partitionedRecord t spec]
      | .error _ => []
  | _, _ => []

def runTable (filter : Filter) (lines : List Line) (r : Resolver) (t : Table) : Outcome :=
  let lines := lines ++ filter.lines (tableRecords r t)
  let result : Except TableError (PartitionSpec × Schema) := do
    let spec ← t.partitionSpec r
    let schema ← t.schema
    pure (spec, schema)
  match result with
  | .error e => failed lines (tableErrorDiagnostic e)
  | .ok (spec, schema) =>
    match schema.declarations spec with
    | .ok declarations =>
      ⟨0, t.qualifiedName ++ "\n" ++ String.join (declarations.map fun d => s!"  {d}\n"), lines⟩
    | .error e =>
      { failed lines (partitionErrorDiagnostic e) with output := t.qualifiedName ++ "\n" }

/-- Goes on with what a file holds. -/
def withContent {α : Type} (lines : List Line) (reader : Json.Reader α) (next : α → Outcome)
    (content : Except FileError String) : Outcome :=
  match content with
  | .error e => failed lines e.diagnostic
  | .ok text =>
    match Json.readText reader text with
    | .error e => failed lines (readErrorDiagnostic e)
    | .ok a => next a

def runCommand (filter : Filter) (lines : List Line) (r : Resolver) : Command → Run
  | .parse c =>
    let r := r.withCaseSensitive (r.caseSensitive || c.caseSensitive)
    let lines := lines ++ filter.lines [readingRecord c.schema]
    .needsFile c.schema (withContent lines Schema.reader (runParse filter lines r c))
  | .check c =>
    let r := r.withCaseSensitive (r.caseSensitive || c.caseSensitive)
    let lines := lines ++ filter.lines [readingRecord c.schema]
    .needsFile c.schema (withContent lines Schema.reader (runCheck filter lines r c))
  | .table path => .needsFile path (withContent lines Table.reader (runTable filter lines r))

def versionText : String := "keel 0.1.0\n"

def helpText : String :=
  "Validate and normalize partition field declarations\n\n" ++
    "Usage: keel <COMMAND>\n\n" ++
    "Commands:\n" ++
    "  parse  Parse declarations into a partition spec and print their canonical form\n" ++
    "  check  Validate declarations and report every error\n" ++
    "  table  Print the partitioning of a table description\n" ++
    "  help   Print this message or the help of the given subcommand(s)\n\n" ++
    "Options:\n" ++
    "  -h, --help     Print help\n" ++
    "  -V, --version  Print version\n"

/-- The last variable with this name. -/
def environmentValue? (vars : List (String × String)) (name : String) : Option String :=
  vars.reverse.lookup name

/-- The run of the program under a list of variables. -/
def run (vars : List (String × String)) (arguments : List String) : Run :=
  match Settings.load vars with
  | .error e => .done (failed [] (settingsErrorDiagnostic e))
  | .ok settings =>
    let started := Logging.start (environmentValue? vars "RUST_LOG") .none
      settings.logging.defaultFilter
    match started with
    | (.error e, _, lines) => .done (failed lines e.message)
    | (.ok filter, _, lines) =>
      match request arguments with
      | .version => .done ⟨0, versionText, lines⟩
      | .help => .done ⟨0, helpText, lines⟩
      | .misuse => .done ⟨2, "", lines ++ [.plain "error: invalid arguments"]⟩
      | .run command =>
        match Resolver.new settings.partition.caseSensitive settings.partition.firstFieldId with
        | .error e => .done (failed lines (partitionErrorDiagnostic e))
        | .ok r => runCommand filter lines r command

end Partitioning.CommandLine
