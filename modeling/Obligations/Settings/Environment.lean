import Obligations.Document.Json
import Obligations.Failure
import Obligations.Settings.Basic
import Obligations.Settings.Overlay

/-! # Settings from the environment

A section of settings takes what it is not given from variables of the environment, whose names begin
with the one of the section. Variables that hold lists or records hold them as JSON.
-/

namespace Obligations

open Obligations.Document Obligations.Schema Obligations.Text

/-- Variables, in the order in which they were set. -/
abbrev Environment := List (String × String)

namespace Environment

/-- The variables with one of them set: at its place where it was there, else at the end. -/
def assign (name content : String) : Environment → Environment
  | [] => [(name, content)]
  | (other, old) :: rest =>
    if other = name then (name, content) :: rest else (other, old) :: assign name content rest

/-- The variables with their names in small letters; of those that agree the last one counts. -/
def lowered (environment : Environment) : Environment :=
  environment.foldl (fun known (name, content) => known.assign (lower name) content) []

end Environment

/-- A setting, and whether a variable holds it as JSON. -/
structure Setting where
  name : String
  inJson : Bool := false

/-- A section of settings. -/
structure Section (α : Type) where
  name : String
  /-- What the names of its variables begin with. -/
  stem : String
  settings : List Setting
  ofMembers : List (String × Value) → Checked α

/-- The value of a variable that holds JSON. -/
def jsonSetting (name content : String) : Outcome Value :=
  match Json.read content with
  | .ok value => .ok value
  | .error _ => .mishap (.unreadableSetting name)

namespace Setting

/-- The member that a variable gives a setting; a null gives none. -/
def ofVariable (setting : Setting) (content : String) : Outcome (List (String × Value)) :=
  if setting.inJson then do
    let value ← jsonSetting setting.name content
    return if value.isNull then [] else [(setting.name, value)]
  else .ok [(setting.name, .text content)]

end Setting

namespace Section

variable {α : Type}

/-- The members that variables give a section. -/
def fromVariables (part : Section α) (environment : Environment) : Outcome (List (String × Value)) :=
  part.settings.foldlM (fun members setting =>
    match environment.lowered.lookup (part.stem ++ setting.name) with
    | some content => (members ++ ·) <$> setting.ofVariable content
    | none => .ok members) []

def keys (part : Section α) : List Key :=
  part.settings.map fun setting => .plain setting.name

/-- A section from the members that it is given and from the environment. -/
def read (part : Section α) (environment : Environment) (given : List (String × Value)) :
    Outcome α := do
  let outside ← part.fromVariables environment
  .ofChecked (Reader.closedRecord part.keys part.ofMembers (.map (Value.overlay outside given)))

end Section

/-- The section about the evaluation of rules. -/
def engineSection : Section EngineSettings where
  name := "engine"
  stem := "compliance_engine_"
  settings := (EngineSettings.members {}).map fun member => ⟨member.1, false⟩
  ofMembers := EngineSettings.ofMembers

/-- The section about the sources of rules. -/
def loaderSection : Section LoaderSettings where
  name := "loader"
  stem := "compliance_loader_"
  settings := [⟨"cache_ttl_seconds", false⟩, ⟨"embedded_locations", true⟩,
    ⟨"api_timeout_seconds", false⟩]
  ofMembers := LoaderSettings.ofMembers

def loggingSection : Section LoggingSettings where
  name := "logging"
  stem := "compliance_log_"
  settings := (LoggingSettings.members {}).map fun member => ⟨member.1, false⟩
  ofMembers := LoggingSettings.ofMembers

end Obligations
