import Obligations.Rule.Basic

/-! # Tasks

A task is the obligation that a rule puts on one subject: what to do, by when, how urgent it is, what
has to be done first, and how it came about.
-/

namespace Obligations

open Obligations.Calendar Obligations.Schema

/-- How a task came about. -/
structure Origin where
  phase : Phase
  conditions : List String := []
  dueDate : String := ""
  placeholders : List (String × Value) := []

/-- An obligation of one subject. -/
structure Task where
  ruleId : String
  title : String
  description : String
  dueDate : Date
  deadline : Timestamp
  category : String
  priority : Priority
  phase : Phase
  completed : Bool := false
  /-- The rules whose tasks come first. -/
  dependencies : List String := []
  autoComplete : Option (List Condition) := none
  isRecurring : Bool := false
  recurrence : Option String := none
  reminderDays : List Int := []
  isBlocked : Bool := false
  blockedBy : List String := []
  origin : Origin

namespace Origin

def ofMembers (members : List (String × Value)) : Checked Origin :=
  Origin.mk
    <$> (Key.mk "userPhase" "user_phase").required (Reader.code Phase.ofCode?) members
    <*> (Key.mk "triggerConditions" "trigger_conditions").withDefault []
      (Reader.listOf Reader.text) members
    <*> (Key.mk "smartDateCalculation" "smart_date_calculation").withDefault "" Reader.text members
    <*> (Key.mk "placeholderValues" "placeholder_values").withDefault []
      (Reader.mapOf Reader.anything) members

def toValue (origin : Origin) : Value :=
  .map [
    ("userPhase", .phase origin.phase),
    ("triggerConditions", .list (origin.conditions.map .text)),
    ("smartDateCalculation", .text origin.dueDate),
    ("placeholderValues", .map origin.placeholders)]

end Origin

namespace Task

def ofMembers (members : List (String × Value)) : Checked Task :=
  Task.mk
    <$> (Key.mk "ruleId" "rule_id").required Reader.text members
    <*> (Key.plain "title").required Reader.text members
    <*> (Key.plain "description").required Reader.text members
    <*> (Key.mk "dueDate" "due_date").required Reader.date members
    <*> (Key.plain "deadline").required Reader.timestamp members
    <*> (Key.plain "category").required Reader.text members
    <*> (Key.plain "priority").required (Reader.code Priority.ofCode?) members
    <*> (Key.plain "phase").required (Reader.code Phase.ofCode?) members
    <*> (Key.plain "completed").withDefault false Reader.bool members
    <*> (Key.plain "dependencies").withDefault [] (Reader.listOf Reader.text) members
    <*> (Key.mk "autoCompleteWhen" "auto_complete_when").optional Condition.listReader members
    <*> (Key.mk "isRecurring" "is_recurring").withDefault false Reader.bool members
    <*> (Key.mk "recurringInterval" "recurring_interval").optional Reader.text members
    <*> (Key.mk "reminderDays" "reminder_days").withDefault [] (Reader.listOf Reader.int) members
    <*> (Key.mk "isBlocked" "is_blocked").withDefault false Reader.bool members
    <*> (Key.mk "blockedBy" "blocked_by").withDefault [] (Reader.listOf Reader.text) members
    <*> (Key.mk "contextData" "context_data").required (Reader.record Origin.ofMembers) members

def reader : Reader Task :=
  Reader.record ofMembers

def toValue (task : Task) : Value :=
  .map [
    ("ruleId", .text task.ruleId),
    ("title", .text task.title),
    ("description", .text task.description),
    ("dueDate", .date task.dueDate),
    ("deadline", .stamp task.deadline),
    ("category", .text task.category),
    ("priority", .text task.priority.code),
    ("phase", .phase task.phase),
    ("completed", .bool task.completed),
    ("dependencies", .list (task.dependencies.map .text)),
    ("autoCompleteWhen",
      .ofOption (fun conditions => .list (Condition.toValues conditions)) task.autoComplete),
    ("isRecurring", .bool task.isRecurring),
    ("recurringInterval", .ofOption .text task.recurrence),
    ("reminderDays", .list (task.reminderDays.map .int)),
    ("isBlocked", .bool task.isBlocked),
    ("blockedBy", .list (task.blockedBy.map .text)),
    ("contextData", task.origin.toValue)]

end Task

end Obligations
