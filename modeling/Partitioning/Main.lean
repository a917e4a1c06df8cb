import Std.Time
import Partitioning.CommandLine

/-!
# The program

Gathers the variables and the arguments, reads the file that a run asks for, and prints how the
run ends.
-/

namespace Partitioning.CommandLine

/-- The variables of a block of `name=value` texts, each ended by a null character. -/
def variablesOf (block : String) : List (String × String) :=
  (Text.splitAt (Char.ofNat 0) block.toList).filterMap fun entry =>
    (Text.cutAt? '=' entry).map fun v => (String.ofList v.1, String.ofList v.2)

def environment : IO (List (String × String)) := do
  let block ← IO.FS.readBinFile "/proc/self/environ"
  pure (((String.fromUTF8? block).map variablesOf).getD [])

def fileError : IO.Error → FileError
  | .noFileOrDirectory .. => .system 2 "NotFound" "No such file or directory"
  | .permissionDenied .. => .system 13 "PermissionDenied" "Permission denied"
  | .inappropriateType _ 21 _ => .system 21 "IsADirectory" "Is a directory"
  | .inappropriateType .. => .system 20 "NotADirectory" "Not a directory"
  | e => .system 5 "Uncategorized" (toString e)

def contentOf (path : String) : IO (Except FileError String) := do
  match ← (IO.FS.readBinFile path).toBaseIO with
  | .error e => pure (.error (fileError e))
  | .ok bytes =>
    match String.fromUTF8? bytes with
    | some text => pure (.ok text)
    | none => pure (.error .notText)

/-- The time of day in UTC, to the second. -/
def timeText : IO String := do
  let now ← Std.Time.Timestamp.now
  let date := Std.Time.DateTime.ofTimestamp now .UTC
  pure (date.format "uuuu-MM-dd\x27T\x27HH:mm:ss\x27Z\x27")

def finish (o : Outcome) : IO UInt32 := do
  let time ← timeText
  IO.print o.output
  for line in o.diagnostics do
    IO.eprint (line.text time)
  pure (UInt32.ofNat o.exitCode)

def execute (arguments : List String) : IO UInt32 := do
  match run (← environment) arguments with
  | .done o => finish o
  | .needsFile path next => finish (next (← contentOf path))

end Partitioning.CommandLine

def main (arguments : List String) : IO UInt32 :=
  Partitioning.CommandLine.execute arguments
