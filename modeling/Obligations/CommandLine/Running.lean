import Obligations.CommandLine.Command
import Obligations.CommandLine.Report
import Obligations.Document.Plain
import Obligations.Engine.Basic
import Obligations.Settings.Reading
import Obligations.Source.Loader
import Obligations.Subject.Records

/-! # Running commands

What a command answers, given the files that it looks at, the environment and the time: printed lines
or a document, and a code that tells how it ended. Failures of the library are printed; other problems
end the program.
-/

namespace Obligations.CommandLine

open Obligations.Calendar Obligations.Document Obligations.Text

/-- What a command finds around it. -/
structure Surroundings where
  environment : Environment
  /-- The contents of the files that exist, by their paths. -/
  files : List (String × String)
  now : Timestamp

namespace Surroundings

def content? (around : Surroundings) (path : Path) : Option String :=
  (around.files.find? fun file => Path.ofText file.1 = path).map (·.2)

end Surroundings

/-- What is printed. -/
inductive Output where
  | lines (content : List Line)
  | document (content : Value)

/-- How a command ends: the code that tells whether it could be done, and what is printed. -/
structure Ending where
  code : Nat
  output : Output

namespace Ending

/-- The end of what could not be done. -/
def failed (content : String) : Outcome Ending := do
  return ⟨2, .lines (← printed ("[red]" ++ content ++ "[/red]"))⟩

end Ending

/-- The name of a file without its extension. -/
def fileStem (path : Path) : String :=
  let name := (path.names.getLast?.getD "").toList
  let back := name.reverse.takeWhile (· != '.')
  if back.isEmpty || name.length ≤ back.length + 1 then String.ofList name
  else String.ofList (name.take (name.length - back.length - 1))

/-- A subject with its records. -/
structure Profile where
  subjectId : String
  records : Records

/-- The subject that a document describes: by a profile with documents and tasks beside it, or as a
whole. -/
def Profile.ofDocument (path : Path) (payload : Value) : Outcome Profile :=
  match payload with
  | .map members =>
    let profile := (members.lookup "profile").getD payload
    match profile with
    | .map own => do
      let id := ((own.lookup "id").bind Value.truthy?).getD (.text (fileStem path))
      let documents ← ((members.lookup "documents").getD (.list [])).looseList
      let tasks ← ((members.lookup "tasks").getD (.list [])).looseList
      return ⟨id.shown, profile, documents, tasks⟩
    | _ => .mishap .notRecord
  | _ => .mishap .notRecord

/-- A file of a subject that was looked for. -/
inductive ProfileFile where
  | read (profile : Profile)
  | unreadable (reason : String)

def readProfile (around : Surroundings) (path : Path) : Outcome ProfileFile :=
  match around.content? path with
  | none =>
    if path.isDirectory then .mishap .directory
    else .ok (.unreadable ("[Errno 2] No such file or directory: " ++ quoted path.text))
  | some content =>
    let content := plainLines content
    match Json.read content with
    | .ok payload => ProfileFile.read <$> Profile.ofDocument path payload
    | .error (.numeralTooLong digits) => .mishap (.numeral digits)
    | .error .nestedTooDeep => .mishap .nestedTooDeep
    | .error fault => .ok (.unreadable (fault.message content.toList))

namespace Command

def readSettings (command : Command) (around : Surroundings) : Outcome Settings :=
  match command.settings with
  | none => Settings.read around.environment []
  | some name =>
    if name.isEmpty then Settings.read around.environment []
    else
      let path := Path.ofText name
      match around.content? path with
      | some content => Settings.ofYaml around.environment (plainLines content)
      | none => .mishap (if path.isDirectory then .directory else .noFile)

def sources (command : Command) (settings : LoaderSettings) (around : Surroundings) : List Source :=
  (if command.usesBundles then Loader.bundles settings else []) ++
    command.ruleFiles.map fun name =>
      let path := Path.ofText name
      { shelf := .file path (around.content? path) }

def load (command : Command) (settings : LoaderSettings) (around : Surroundings) :
    Outcome (List Draft) :=
  ((Loader.ofSources settings (command.sources settings around)).load ⟨0, around.now⟩).1

/-- The evaluation of a subject. -/
def evaluate (command : Command) (settings : Settings) (around : Surroundings) (profile : Profile)
    (today : Option Date) : Outcome Evaluation := do
  let now := (today.map Timestamp.midnight).getD around.now
  let drafts ← command.load settings.loader around
  let engine ← (Engine.ofSettings settings.engine).load drafts
  let records := profile.records
  let context := Context.ofFetched profile.subjectId
    ⟨.found records.profile, .found records.documents, .found records.tasks⟩ now.date
  (engine.evaluate ⟨0, now⟩ profile.subjectId context).1

def answerEvaluation (command : Command) (settings : Settings) (around : Surroundings)
    (path : Path) (today : Option Date) (asJson : Bool) : Outcome Ending := do
  match ← readProfile around path with
  | .unreadable reason => Ending.failed ("Could not read input: " ++ reason)
  | .read profile =>
    let evaluation ← command.evaluate settings around profile today
    let code := if evaluation.errors.isEmpty then 0 else 1
    if asJson then return ⟨code, .document evaluation.toValue.plain⟩
    else return ⟨code, .lines (← evaluationLines evaluation)⟩

def answerRules (command : Command) (settings : Settings) (around : Surroundings)
    (validates : Bool) : Outcome Ending := do
  let drafts ← command.load settings.loader around
  let listed ← ruleLines (drafts.filterMap (·.toRule?)) (← Statistics.ofDrafts drafts)
  if validates then
    let report ← checkSet drafts
    return ⟨if report.isValid then 0 else 1, .lines (listed ++ (← checkLines report))⟩
  else return ⟨0, .lines listed⟩

def run (command : Command) (around : Surroundings) : Outcome Ending := do
  let settings ← command.readSettings around
  let answer := match command.request with
    | .evaluate profile today asJson =>
      command.answerEvaluation settings around (.ofText profile) today asJson
    | .rules validates => command.answerRules settings around validates
  match answer with
  | .error (.failure failure) => Ending.failed failure.text
  | outcome => outcome

end Command

def answer (arguments : List String) (around : Surroundings) : Outcome Ending :=
  match Command.ofArguments arguments with
  | .error .usage => .ok ⟨2, .lines []⟩
  | .error (.help lines) => .ok ⟨0, .lines (lines.map .text)⟩
  | .ok command => command.run around

end Obligations.CommandLine
