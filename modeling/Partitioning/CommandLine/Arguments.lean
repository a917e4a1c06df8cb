/-!
# Arguments

The commands and their options. Options may stand before, between and behind the other arguments;
everything behind a lone `--` is an argument.
-/

namespace Partitioning.CommandLine

structure ParseCommand where
  schema : String
  json : Bool
  caseSensitive : Bool
  declarations : List String
  deriving DecidableEq

structure CheckCommand where
  schema : String
  caseSensitive : Bool
  declarations : List String
  deriving DecidableEq

inductive Command where
  | parse (c : ParseCommand)
  | check (c : CheckCommand)
  | table (path : String)
  deriving DecidableEq

/-- What a list of arguments asks for. -/
inductive Request where
  | run (c : Command)
  | version
  | help
  | misuse
  deriving DecidableEq

/-- The options of a command: those that are flags, whether it takes a schema, and whether a plain
argument may follow those before it. -/
structure Options where
  flags : List String
  takesSchema : Bool
  accepts : List String → String → Bool

/-- The arguments of a command so far. -/
structure Given where
  schema : Option String := none
  flags : List String := []
  rest : List String := []

/-- A path is not empty. -/
def Given.setSchema? (g : Given) (path : String) : Option Given :=
  if g.schema.isSome ∨ path.isEmpty then none else some { g with schema := path }

def Given.setFlag? (g : Given) (flag : String) : Option Given :=
  if flag ∈ g.flags then none else some { g with flags := g.flags ++ [flag] }

def Given.addPlain? (options : Options) (g : Given) (argument : String) : Option Given :=
  if options.accepts g.rest argument then some { g with rest := g.rest ++ [argument] } else none

/-- A lone dash is an argument like any other. -/
def isOption (argument : String) : Bool :=
  argument.startsWith "-" && argument.length > 1

inductive Parsed where
  | given (g : Given)
  | help
  | misuse

/-- Sorts the arguments of a command. The first option that cannot be understood, and the first
request for help, decide. -/
def sortArguments (options : Options) (g : Given) : List String → Parsed
  | [] => .given g
  | "--" :: rest =>
    match rest.foldlM (Given.addPlain? options) g with
    | some g => .given g
    | none => .misuse
  | "--help" :: _ => .help
  | "--schema" :: path :: rest =>
    if !options.takesSchema || isOption path then .misuse
    else
      match g.setSchema? path with
      | some g => sortArguments options g rest
      | none => .misuse
  | argument :: rest =>
    if argument.startsWith "--" then
      if options.takesSchema && argument.startsWith "--schema=" then
        match g.setSchema? (String.ofList (argument.toList.drop "--schema=".length)) with
        | some g => sortArguments options g rest
        | none => .misuse
      else if argument ∈ options.flags then
        match g.setFlag? argument with
        | some g => sortArguments options g rest
        | none => .misuse
      else .misuse
    else if isOption argument then
      if argument.startsWith "-h" then .help else .misuse
    else
      match g.addPlain? options argument with
      | some g => sortArguments options g rest
      | none => .misuse

def requestOf (options : Options) (arguments : List String) (command? : Given → Option Command) :
    Request :=
  match sortArguments options {} arguments with
  | .help => .help
  | .misuse => .misuse
  | .given g =>
    match command? g with
    | some c => .run c
    | none => .misuse

def parseOptions : Options := ⟨["--json", "--case-sensitive"], true, fun _ _ => true⟩

def checkOptions : Options := ⟨["--case-sensitive"], true, fun _ _ => true⟩

/-- One path, which is not empty. -/
def tableOptions : Options := ⟨[], false, fun given path => given.isEmpty && !path.isEmpty⟩

def parseCommand? (g : Given) : Option Command :=
  match g.schema, g.rest with
  | some schema, declaration :: rest =>
    some (.parse ⟨schema, "--json" ∈ g.flags, "--case-sensitive" ∈ g.flags, declaration :: rest⟩)
  | _, _ => none

def checkCommand? (g : Given) : Option Command :=
  match g.schema, g.rest with
  | some schema, declaration :: rest =>
    some (.check ⟨schema, "--case-sensitive" ∈ g.flags, declaration :: rest⟩)
  | _, _ => none

def tableCommand? (g : Given) : Option Command :=
  match g.rest with
  | [path] => some (.table path)
  | _ => none

def commandNames : List String := ["parse", "check", "table", "help"]

/-- What the arguments behind the name of the program ask for. -/
def request : List String → Request
  | "--version" :: _ => .version
  | "--help" :: _ => .help
  | "help" :: topics =>
    match topics with
    | [] => .help
    | [topic] => if topic ∈ commandNames then .help else .misuse
    | _ => .misuse
  | "parse" :: rest => requestOf parseOptions rest parseCommand?
  | "check" :: rest => requestOf checkOptions rest checkCommand?
  | "table" :: rest => requestOf tableOptions rest tableCommand?
  | argument :: _ =>
    if argument.startsWith "-V" then .version
    else if argument.startsWith "-h" then .help
    else .misuse
  | [] => .misuse

end Partitioning.CommandLine
