import Obligations.Document.Yaml
import Obligations.Settings.Dotenv
import Obligations.Settings.Environment
import Obligations.Text.Blank

/-! # Reading settings

All settings are read from a record with a member for each section, and from the environment. There a
variable with the name of a section holds it as JSON, and one whose name goes on with two underscores
holds a member of it. What is given counts more than what the environment holds, and names of
variables matter only up to case.
-/

namespace Obligations

open Obligations.Document Obligations.Schema Obligations.Text

namespace Value

/-- Members with one set at the end of a path of names; a value that is no map ends the path. -/
def setAt (value : Value) : List String → String → List (String × Value) → List (String × Value)
  | [], last, members => setMember last value members
  | name :: names, last, members =>
    match (member? name members).getD (.map []) with
    | .map inner => setMember name (.map (setAt value names last inner)) members
    | _ => members

end Value

namespace Section

variable {α : Type}

/-- The name of the setting that a name means up to case. -/
def settingName (part : Section α) (name : String) : String :=
  ((part.settings.find? fun setting => lower setting.name == lower name).map (·.name)).getD name

/-- The value that a variable for a single member holds. -/
def memberValue (part : Section α) (names : List String) (last content : String) : Outcome Value :=
  let isJson := names.isEmpty && !content.isEmpty &&
    part.settings.any fun setting => setting.inJson && lower setting.name == last
  if isJson then jsonSetting part.name content else .ok (.text content)

/-- The members that the variables for single members hold. -/
def fromNested (part : Section α) (environment : Environment) : Outcome (List (String × Value)) :=
  environment.lowered.foldlM (fun members (name, content) =>
    match stripStart? (part.name ++ "__").toList name.toList with
    | none => .ok members
    | some rest => do
      let path := (String.ofList rest).splitOn "__"
      let last := path.getLast?.getD ""
      let value ← part.memberValue path.dropLast last content
      return Value.setAt value path.dropLast last members) []

/-- What the environment holds of a section, if it holds anything. -/
def outside? (part : Section α) (environment : Environment) : Outcome (Option Value) := do
  match environment.lowered.lookup part.name with
  | none =>
    let nested ← part.fromNested environment
    return if nested.isEmpty then none else some (.map nested)
  | some content =>
    match ← jsonSetting part.name content with
    | .null => return none
    | .map members => return some (.map (Value.overlay members (← part.fromNested environment)))
    | value => return some value

/-- What the environment holds of a section, with the names of its settings. -/
def named (part : Section α) (value : Value) : Value :=
  match value with
  | .map members =>
    .map (Value.membersOf (members.map fun (name, value) => (part.settingName name, value)))
  | other => other

/-- The member of all settings that the environment gives for a section. -/
def outsideMembers (part : Section α) (environment : Environment) :
    Outcome (List (String × Value)) := do
  return ((← part.outside? environment).map fun value => (part.name, part.named value)).toList

/-- A section as a member of all settings. What is wrong with a section that is given is told with the
others; what is wrong with one that is not stands for itself. -/
def readIn (part : Section α) (environment : Environment) (members : List (String × Value)) :
    Outcome (Checked α) :=
  match members.lookup part.name with
  | none => .ok <$> part.read environment []
  | some (.map given) =>
    match part.read environment given with
    | .ok settings => .ok (.ok settings)
    | .error (.issues found) => .ok (Checked.under (.member part.name) (.refused found))
    | .error other => .ok (Checked.under (.member part.name) (.refuse (.refused other.message)))
  | some _ => .ok (Checked.under (.member part.name) (.refuse .notRecord))

end Section

namespace Settings

def read (environment : Environment) (given : List (String × Value)) : Outcome Settings := do
  let engine ← engineSection.outsideMembers environment
  let loader ← loaderSection.outsideMembers environment
  let logging ← loggingSection.outsideMembers environment
  let members := Value.overlay (engine ++ loader ++ logging) given
  let engine ← engineSection.readIn environment members
  let loader ← loaderSection.readIn environment members
  let logging ← loggingSection.readIn environment members
  .ofChecked (Settings.mk <$> engine <*> loader <*> logging)

def ofYaml (environment : Environment) (content : String) : Outcome Settings :=
  match Yaml.read content with
  | .error fault => .mishap (.yaml fault)
  | .ok value =>
    if !value.isTruthy then read environment []
    else
      match value with
      | .map members => read environment members
      | _ => .mishap .unusable

/-- All settings from the environment, to which a file of variables adds. -/
def ofVariables (environment : Environment) (content : String) : Outcome Settings :=
  read (environment.withFile (plainLines content)) []

end Settings

end Obligations
