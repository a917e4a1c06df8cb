import Partitioning.Text.Blank
import Partitioning.Text.Enclosed
import Partitioning.Text.Pattern.Reader

/-!
# Logging

Filters decide by the target of a record. A filter is a comma-separated list of directives such as
`warn,storage=debug`: a level for all targets, or for those that start with a name. The longest
name that fits a target decides. Behind a slash stands a pattern that messages have to match.
-/

namespace Partitioning.Logging

open Text

inductive Level where
  | error
  | warn
  | info
  | debug
  | trace
  deriving DecidableEq

namespace Level

def rank : Level → Nat
  | error => 1
  | warn => 2
  | info => 3
  | debug => 4
  | trace => 5

def name : Level → String
  | error => "ERROR"
  | warn => "WARN"
  | info => "INFO"
  | debug => "DEBUG"
  | trace => "TRACE"

def all : List Level := [error, warn, info, debug, trace]

/-- The level a word in any letter case names; `off` is no level at all. -/
def ofWord? (cs : List Char) : Option (Option Level) :=
  let word := cs.map Char.toUpper
  if word = "OFF".toList then some none
  else (all.find? fun l => l.name.toList == word).map some

end Level

/-- Records up to `level` pass if their target starts with `name`, all targets without a name. -/
structure Directive where
  name : Option (List Char)
  level : Option Level

namespace Directive

def length (d : Directive) : Nat := (d.name.getD []).length

def fits (d : Directive) (target : List Char) : Bool := (d.name.getD []).isPrefixOf target

end Directive

structure Filter where
  directives : List Directive
  /-- A pattern that the message has to match. -/
  message? : Option Pattern

inductive FilterError where
  | tooManySlashes (filter : String)
  | directive (text : String)
  | pattern (text : List Char) (error : PatternError)

def FilterError.message : FilterError → String
  | tooManySlashes filter => s!"invalid logging spec \x27{filter}\x27 (too many \x27/\x27s)"
  | directive text => s!"invalid logging spec \x27{text}\x27"
  | pattern text e => s!"invalid regex filter - {e.message text}"

namespace Filter

/-- A directive without a level, or with an empty one, lets everything pass. -/
def directive (cs : List Char) : Except FilterError Directive :=
  match splitAt '=' cs with
  | [word] =>
    match Level.ofWord? word with
    | some level => .ok ⟨none, level⟩
    | none => .ok ⟨some word, some .trace⟩
  | [name, level] =>
    let level := trim level
    if level.isEmpty then .ok ⟨some name, some .trace⟩
    else
      match Level.ofWord? level with
      | some level => .ok ⟨some name, level⟩
      | none => .error (.directive (String.ofList level))
  | _ => .error (.directive (String.ofList cs))

def errorsOf {α : Type} (results : List (Except FilterError α)) : List FilterError :=
  results.filterMap fun r =>
    match r with
    | .ok _ => none
    | .error e => some e

/-- Adds a directive, in place of one with the same name. -/
def insert (d : Directive) : List Directive → List Directive
  | [] => [d]
  | e :: rest => if d.name = e.name then d :: rest else e :: insert d rest

/-- The directives of a list between commas that can be read, and the errors of the others. -/
def directivesOf (cs : List Char) : List Directive × List FilterError :=
  let results := (((splitAt ',' cs).map trim).filter (!·.isEmpty)).map directive
  let directives := (results.filterMap Except.toOption).foldl (fun done d => insert d done) []
  (directives, errorsOf results)

/-- The filter that a text describes without the parts that cannot be read, and their errors. -/
def ofText (s : String) : Filter × List FilterError :=
  match splitAt '/' s.toList with
  | [directives] =>
    let read := directivesOf directives
    (⟨read.1, none⟩, read.2)
  | [directives, message] =>
    let read := directivesOf directives
    match Pattern.ofText message with
    | .ok p => (⟨read.1, some p⟩, read.2)
    | .error e => (⟨read.1, none⟩, read.2 ++ [.pattern message e])
  | _ => (⟨[], none⟩, [.tooManySlashes s])

/-- The directive with the longest name that fits; of names as long the last one. -/
def deciding? (f : Filter) (target : List Char) : Option Directive :=
  f.directives.foldl (fun best d =>
    if d.fits target ∧ best.all (·.length ≤ d.length) then some d else best) none

/-- Without any directive only errors pass. -/
def allowsTarget (f : Filter) (level : Level) (target : List Char) : Bool :=
  match f.directives with
  | [] => level.rank ≤ Level.error.rank
  | _ =>
    match (f.deciding? target).bind Directive.level with
    | some bound => level.rank ≤ bound.rank
    | none => false

end Filter

structure Record where
  level : Level
  target : String
  message : String

def Record.text (r : Record) (time : String) : String :=
  s!"[{time} {r.level.name} {r.target}] {r.message}\n"

def Filter.allows (f : Filter) (r : Record) : Bool :=
  f.allowsTarget r.level r.target.toList &&
    match f.message? with
    | some p => p.occursIn r.message.toList
    | none => true

/-- A line on standard error. -/
inductive Line where
  | record (r : Record)
  | plain (s : String)

def Line.text (time : String) : Line → String
  | .record r => r.text time
  | .plain s => s ++ "\n"

/-- The records that pass a filter, as lines. -/
def Filter.lines (f : Filter) (records : List Record) : List Line :=
  (records.filter f.allows).map .record

def started (defaultFilter : String) : Record :=
  ⟨.debug, "keel_telemetry::logger", s!"logger initialized with default filter: {defaultFilter}"⟩

/-- The filter in force, and the lines about the parts of it that cannot be read: the filter of the
environment, if there is one, goes before the default. -/
def filterOf (environment? : Option String) (defaultFilter : String) : Filter × List Line :=
  let read := Filter.ofText (environment?.getD defaultFilter)
  (read.1, read.2.map fun e => .plain s!"warning: {e.message}, ignoring it")

/-- Whether a process has a logger, and whose. -/
inductive State where
  | none
  | foreign
  | own

inductive StartError where
  | alreadyStarted
  | foreignLogger
  deriving DecidableEq

def StartError.message : StartError → String
  | alreadyStarted => "internal error: logger already initialized"
  | foreignLogger =>
    "logger error: attempted to set a logger after the logging system was already initialized"

/-- Starts logging with a default filter: the outcome, the next state and the lines written. -/
def start (environment? : Option String) (state : State) (defaultFilter : String) :
    Except StartError Filter × State × List Line :=
  let (filter, warnings) := filterOf environment? defaultFilter
  match state with
  | .own => (.error .alreadyStarted, .own, [])
  | .foreign => (.error .foreignLogger, .foreign, warnings)
  | .none => (.ok filter, .own, warnings ++ filter.lines [started defaultFilter])

/-- Starts logging once for each default filter. -/
def startAll (environment? : Option String) :
    State → List String → List (Except StartError Unit) × List Line
  | _, [] => ([], [])
  | state, f :: rest =>
    let (result, next, lines) := start environment? state f
    let more := startAll environment? next rest
    (result.map (fun _ => ()) :: more.1, lines ++ more.2)

end Partitioning.Logging
