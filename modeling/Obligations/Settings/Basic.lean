import Obligations.Schema.Record
import Obligations.Text.Case

/-! # Settings

What can be chosen about the evaluation of rules, about their sources and about reports. Every
setting has a value of its own where nothing else is chosen.
-/

namespace Obligations

open Obligations.Number Obligations.Schema Obligations.Text

structure EngineSettings where
  /-- Whether due dates follow the plans of the rules. -/
  smartDates : Bool := true
  /-- Whether tasks are put in the order of their prerequisites. -/
  dependencies : Bool := true
  /-- Whether universities can change templates. -/
  universityChanges : Bool := true
  /-- Whether tasks tell what completes them. -/
  autoCompletion : Bool := true
  /-- The greatest number of tasks of one evaluation. -/
  taskLimit : Nat := 50
  /-- The days to a due date that follows no plan. -/
  dueInDays : Nat := 7
  /-- Whether results are kept for later evaluations. -/
  keepsResults : Bool := true
  /-- The seconds for which a result is kept. -/
  resultSeconds : Binary64 := .ofDecimal false 300 0
  debugging : Bool := false
  /-- Whether a result tells how many rules and tasks there were. -/
  summarizes : Bool := true
deriving DecidableEq, Repr

/-- The rule sets that are read where no others are chosen. -/
def bundledNames : List String := ["f1-student-rules", "opt-rules", "stem-opt-rules"]

structure LoaderSettings where
  /-- The seconds for which the rules of a source are kept. -/
  sourceSeconds : Binary64 := .ofDecimal false 300 0
  bundles : List String := bundledNames
  /-- The seconds that a service has for its answer. -/
  serviceSeconds : Binary64 := .ofDecimal false 10 0
deriving DecidableEq, Repr

structure LoggingSettings where
  level : String := "INFO"
  isStructured : Bool := false
deriving DecidableEq, Repr

structure Settings where
  engine : EngineSettings := {}
  loader : LoaderSettings := {}
  logging : LoggingSettings := {}
deriving DecidableEq, Repr

def countFrom (least : Nat) : Reader Nat := fun value =>
  (Reader.intWithin (some least) none value).map Int.toNat

namespace EngineSettings

def ofMembers (members : List (String × Value)) : Checked EngineSettings :=
  let flag := fun (name : String) (fallback : Bool) =>
    (Key.plain name).withDefault fallback Reader.bool members
  EngineSettings.mk
    <$> flag "enable_smart_dates" true
    <*> flag "enable_dependencies" true
    <*> flag "enable_university_overrides" true
    <*> flag "enable_auto_completion" true
    <*> (Key.plain "max_tasks_per_evaluation").withDefault 50 (countFrom 1) members
    <*> (Key.plain "default_due_offset_days").withDefault 7 (countFrom 0) members
    <*> flag "cache_evaluation_results" true
    <*> (Key.plain "cache_ttl_seconds").withDefault (.ofDecimal false 300 0)
      Reader.positiveFloat members
    <*> flag "debug_mode" false
    <*> flag "performance_tracking" true

def members (settings : EngineSettings) : List (String × Value) :=
  [("enable_smart_dates", .bool settings.smartDates),
   ("enable_dependencies", .bool settings.dependencies),
   ("enable_university_overrides", .bool settings.universityChanges),
   ("enable_auto_completion", .bool settings.autoCompletion),
   ("max_tasks_per_evaluation", .int settings.taskLimit),
   ("default_due_offset_days", .int settings.dueInDays),
   ("cache_evaluation_results", .bool settings.keepsResults),
   ("cache_ttl_seconds", .float settings.resultSeconds),
   ("debug_mode", .bool settings.debugging),
   ("performance_tracking", .bool settings.summarizes)]

end EngineSettings

namespace LoaderSettings

def ofMembers (members : List (String × Value)) : Checked LoaderSettings :=
  LoaderSettings.mk
    <$> (Key.plain "cache_ttl_seconds").withDefault (.ofDecimal false 300 0)
      Reader.positiveFloat members
    <*> (Key.plain "embedded_locations").withDefault bundledNames (Reader.listOf Reader.text) members
    <*> (Key.plain "api_timeout_seconds").withDefault (.ofDecimal false 10 0)
      Reader.positiveFloat members

def members (settings : LoaderSettings) : List (String × Value) :=
  [("cache_ttl_seconds", .float settings.sourceSeconds),
   ("embedded_locations", .list (settings.bundles.map .text)),
   ("api_timeout_seconds", .float settings.serviceSeconds)]

end LoaderSettings

namespace LoggingSettings

def levels : List String := ["DEBUG", "INFO", "WARNING", "ERROR", "CRITICAL"]

/-- The name of a level, in any case. -/
def levelReader : Reader String := fun value =>
  (Reader.text value).andThen fun content =>
    if levels.contains (upper content) then .ok (upper content)
    else .refuse (.refused ("Unknown log level: " ++ content))

def ofMembers (members : List (String × Value)) : Checked LoggingSettings :=
  LoggingSettings.mk
    <$> (Key.plain "log_level").withDefault "INFO" levelReader members
    <*> (Key.plain "enable_structured_logging").withDefault false Reader.bool members

def members (settings : LoggingSettings) : List (String × Value) :=
  [("log_level", .text settings.level),
   ("enable_structured_logging", .bool settings.isStructured)]

end LoggingSettings

def Settings.toValue (settings : Settings) : Value :=
  .map [("engine", .map settings.engine.members), ("loader", .map settings.loader.members),
    ("logging", .map settings.logging.members)]

end Obligations
