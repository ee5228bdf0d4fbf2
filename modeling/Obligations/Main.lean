import Obligations.CommandLine.Running
import Std.Time.Format

/-! # The program

The outer layer: it reads the files that a command looks at, asks for the time, and prints the answer.
-/

namespace Obligations.CommandLine

open Obligations.Calendar Obligations.Document

/-- The content of a file, if it can be read. -/
def contentOf? (name : String) : IO (Option String) := do
  try
    return some (← IO.FS.readFile name)
  catch _ => return none

/-- The contents of files that can be read, by their names. -/
def contentsOf (names : List String) : IO (List (String × String)) := do
  let found ← names.mapM fun name => do
    return (← contentOf? name).map fun content => (name, content)
  return found.filterMap id

/-- The names of the variables that hold settings. -/
def variableNames : List String :=
  let ofSection {α : Type} (part : Section α) : List String :=
    part.name :: part.settings.flatMap fun setting =>
      [part.stem ++ setting.name, part.name ++ "__" ++ setting.name]
  ofSection engineSection ++ ofSection loaderSection ++ ofSection loggingSection

/-- The variables that hold settings. -/
def environment : IO Environment := do
  let found ← variableNames.mapM fun name => do
    let shouted := name.toUpper
    return (← IO.getEnv shouted).map fun content => (shouted, content)
  return found.filterMap id

def localTime : IO Timestamp := do
  let time ← Std.Time.PlainDateTime.now
  let date := Date.ofParts? time.date.year.toInt.toNat time.date.month.toNat time.date.day.toNat
  let second := (time.hour.toNat * 60 + time.minute.toNat) * 60 + time.second.toNat
  let micros := second * microsPerSecond + time.nanosecond.toNat / 1000
  if bounded : micros < microsPerDay then
    return ⟨date.getD Date.first, micros, bounded, none⟩
  else return .midnight (date.getD Date.first)

def shownLine (elapsed : Nat) : Line → String
  | .text content => content
  | .row cells => " | ".intercalate cells
  | .timed content => content ++ " " ++ toString elapsed ++ " ms"

/-- Prints how a command ended and gives its code. -/
def printEnding (elapsed : Nat) (ending : Ending) : IO UInt32 := do
  match ending.output with
  | .lines content => content.forM fun line => IO.println (shownLine elapsed line)
  | .document content => (Json.lines content).forM fun line => IO.println line
  return ending.code.toUInt32

/-- Evaluates a subject or lists the rules, as the command line asks. -/
def program (arguments : List String) : IO UInt32 := do
  let names := match Command.ofArguments arguments with
    | .ok command => command.files
    | .error _ => []
  let surroundings : Surroundings := ⟨← environment, ← contentsOf names, ← localTime⟩
  let start ← IO.monoMsNow
  match answer arguments surroundings with
  | .ok ending => printEnding ((← IO.monoMsNow) - start) ending
  | .error problem =>
    IO.eprintln problem.message
    return 1

end Obligations.CommandLine

/-- The program. -/
def main (arguments : List String) : IO UInt32 :=
  Obligations.CommandLine.program arguments
