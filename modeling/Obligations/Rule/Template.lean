import Obligations.Condition.Form
import Obligations.DueDate.Plan

/-! # Templates of obligations

What a rule says about the obligation that follows from it, and the changes that single universities
make to it.
-/

namespace Obligations

open Obligations.Schema

/-- How urgent an obligation is. -/
inductive Priority where
  | low
  | medium
  | high
deriving DecidableEq, Repr

namespace Priority

def code : Priority → String
  | .low => "low"
  | .medium => "medium"
  | .high => "high"

/-- The priority with a given code. -/
def ofCode? (code : String) : Option Priority :=
  [Priority.low, .medium, .high].find? (·.code == code)

end Priority

/-- When a subject is reminded of an obligation. -/
structure Reminders where
  /-- Days before the due date. -/
  intervals : List Int := []
  message : Option String := none

/-- The changes that a university makes to a template. -/
structure TemplateChanges where
  title : Option String := none
  description : Option String := none
  category : Option String := none
  priority : Option Priority := none
  due : Option DuePlan := none
  dependsOn : Option (List String) := none
  reminders : Option Reminders := none

/-- What a rule says about its obligation. -/
structure Template where
  title : String
  description : String := ""
  category : String := "general"
  priority : Priority := .medium
  due : Option DuePlan := none
  /-- The rules whose obligations come first. -/
  dependsOn : List String := []
  autoComplete : Option (List Condition) := none
  reminders : Option Reminders := none
  changes : List (String × TemplateChanges) := []

namespace Template

/-- The template with changes made to it. -/
def changed (template : Template) (changes : TemplateChanges) : Template :=
  { template with
    title := changes.title.getD template.title
    description := changes.description.getD template.description
    category := changes.category.getD template.category
    priority := changes.priority.getD template.priority
    due := changes.due.or template.due
    dependsOn := changes.dependsOn.getD template.dependsOn
    reminders := changes.reminders.or template.reminders }

/-- The changes that a university makes; one without a name makes none. -/
def changesOf? (template : Template) (university : Option String) : Option TemplateChanges :=
  match university with
  | some name => if name.isEmpty then none else template.changes.lookup name
  | none => none

def forUniversity (template : Template) (university : Option String) : Template :=
  match template.changesOf? university with
  | some changes => template.changed changes
  | none => template

end Template

/-- The members of templates that changes share with them. -/
def titleKey : Key := ⟨"titleTemplate", "title_template"⟩

/-- The member with the description. -/
def descriptionKey : Key := ⟨"descriptionTemplate", "description_template"⟩

/-- The member with the plan for the due date. -/
def dueKey : Key := ⟨"dueDateConfig", "due_date_config"⟩

/-- The member with the rules that come first. -/
def dependsOnKey : Key := ⟨"dependsOn", "depends_on"⟩

/-- The member with the conditions that complete an obligation. -/
def autoCompleteKey : Key := ⟨"autoCompleteConditions", "auto_complete_conditions"⟩

/-- The member with the reminders. -/
def remindersKey : Key := ⟨"reminderSchedule", "reminder_schedule"⟩

/-- The member with the changes of universities. -/
def changesKey : Key := ⟨"universityOverrides", "university_overrides"⟩

namespace Reminders

def ofMembers (members : List (String × Value)) : Checked Reminders :=
  Reminders.mk
    <$> (Key.plain "intervals").withDefault [] (Reader.listOf Reader.int) members
    <*> (Key.mk "customMessage" "custom_message").optional Reader.text members

def reader : Reader Reminders :=
  Reader.record ofMembers

def toValue (reminders : Reminders) : Value :=
  .map [
    ("intervals", .list (reminders.intervals.map .int)),
    ("customMessage", .ofOption .text reminders.message)]

end Reminders

namespace TemplateChanges

def ofMembers (members : List (String × Value)) : Checked TemplateChanges :=
  TemplateChanges.mk
    <$> titleKey.optional Reader.text members
    <*> descriptionKey.optional Reader.text members
    <*> (Key.plain "category").optional Reader.text members
    <*> (Key.plain "priority").optional (Reader.code Priority.ofCode?) members
    <*> dueKey.optional DuePlan.reader members
    <*> dependsOnKey.optional (Reader.listOf Reader.text) members
    <*> remindersKey.optional Reminders.reader members

def reader : Reader TemplateChanges :=
  Reader.record ofMembers

def toValue (changes : TemplateChanges) : Value :=
  .map [
    ("titleTemplate", .ofOption .text changes.title),
    ("descriptionTemplate", .ofOption .text changes.description),
    ("category", .ofOption .text changes.category),
    ("priority", .ofOption (.text ·.code) changes.priority),
    ("dueDateConfig", .ofOption DuePlan.toValue changes.due),
    ("dependsOn", .ofOption (fun ids => .list (ids.map .text)) changes.dependsOn),
    ("reminderSchedule", .ofOption Reminders.toValue changes.reminders)]

end TemplateChanges

namespace Template

def ofMembers (members : List (String × Value)) : Checked Template :=
  Template.mk
    <$> titleKey.required Reader.nonEmptyText members
    <*> descriptionKey.withDefault "" Reader.text members
    <*> (Key.plain "category").withDefault "general" Reader.text members
    <*> (Key.plain "priority").withDefault .medium (Reader.code Priority.ofCode?) members
    <*> dueKey.optional DuePlan.reader members
    <*> dependsOnKey.withDefault [] (Reader.listOf Reader.text) members
    <*> autoCompleteKey.optional Condition.listReader members
    <*> remindersKey.optional Reminders.reader members
    <*> changesKey.withDefault [] (Reader.mapOf TemplateChanges.reader) members

def reader : Reader Template :=
  Reader.record ofMembers

def toValue (template : Template) : Value :=
  .map [
    ("titleTemplate", .text template.title),
    ("descriptionTemplate", .text template.description),
    ("category", .text template.category),
    ("priority", .text template.priority.code),
    ("dueDateConfig", .ofOption DuePlan.toValue template.due),
    ("dependsOn", .list (template.dependsOn.map .text)),
    ("autoCompleteConditions",
      .ofOption (fun conditions => .list (Condition.toValues conditions)) template.autoComplete),
    ("reminderSchedule", .ofOption Reminders.toValue template.reminders),
    ("universityOverrides",
      .map (template.changes.map fun (university, changes) => (university, changes.toValue)))]

end Template

end Obligations
