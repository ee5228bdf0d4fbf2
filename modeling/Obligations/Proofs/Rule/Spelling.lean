import Obligations.Proofs.Condition.Spelling
import Obligations.Proofs.Source.Times

/-! # Two spellings of rules

The members of a rule may go by either of their names, and so may those of all records inside it. A rule that is
respelled is read to the same, provided that the times it is read with are: these are what it has by the names on
the wire, or else the time that its document takes.
-/

namespace Obligations

open Obligations.Calendar Obligations.Schema

/-- The keys of rules and of the records inside them that have two names. -/
def modelKeys : List Key :=
  [Requirement.timeKey, Requirement.connectiveKey,
   ⟨"baseDate", "base_date"⟩, ⟨"businessDaysOnly", "business_days_only"⟩, ⟨"excludeHolidays", "exclude_holidays"⟩,
   ⟨"minDate", "min_date"⟩, ⟨"maxDate", "max_date"⟩,
   ⟨"customMessage", "custom_message"⟩,
   titleKey, descriptionKey, dueKey, dependsOnKey, autoCompleteKey, remindersKey, changesKey,
   ⟨"ruleGroup", "rule_group"⟩, ⟨"phase", "phases"⟩, ⟨"visaTypes", "visa_types"⟩, ⟨"taskTemplate", "task_template"⟩,
   ⟨"isActive", "is_active"⟩, ⟨"createdAt", "created_at"⟩, ⟨"updatedAt", "updated_at"⟩,
   ⟨"universitySpecific", "university_specific"⟩]

namespace DuePlan

def keys : List Key :=
  [.plain "type", ⟨"baseDate", "base_date"⟩, .plain "offset", .plain "calculation",
   ⟨"businessDaysOnly", "business_days_only"⟩, ⟨"excludeHolidays", "exclude_holidays"⟩, ⟨"minDate", "min_date"⟩,
   ⟨"maxDate", "max_date"⟩]

def respelling : Respelling :=
  .record (keys.map Key.part)

theorem respects_respelling : reader.Respects modelKeys respelling := by
  have suits : Suits modelKeys ((keys.map Key.part).map (·.key)) := by decide
  refine Reader.respects_record fun {members others} respelled => ?_
  rw [ofMembers, ofMembers, Checked.inWire_andThen, Checked.inWire_andThen]
  congr 1
  simp only [Checked.inWire_seq, Checked.inWire_map]
  rw [respelled.required_part suits (by simp [keys]), respelled.optional_part suits (by simp [keys]),
    respelled.optional_part suits (by simp [keys]), respelled.optional_part suits (by simp [keys]),
    respelled.withDefault_part suits (by simp [keys]), respelled.withDefault_part suits (by simp [keys]),
    respelled.optional_part suits (by simp [keys]), respelled.optional_part suits (by simp [keys])]

end DuePlan

namespace Reminders

def keys : List Key :=
  [.plain "intervals", ⟨"customMessage", "custom_message"⟩]

def respelling : Respelling :=
  .record (keys.map Key.part)

theorem respects_respelling : reader.Respects modelKeys respelling := by
  have suits : Suits modelKeys ((keys.map Key.part).map (·.key)) := by decide
  refine Reader.respects_record fun {members others} respelled => ?_
  simp only [ofMembers, Checked.inWire_seq, Checked.inWire_map]
  rw [respelled.withDefault_part suits (by simp [keys]), respelled.optional_part suits (by simp [keys])]

end Reminders

namespace TemplateChanges

def parts : List Part :=
  [titleKey.part, descriptionKey.part, (Key.plain "category").part, (Key.plain "priority").part,
   ⟨dueKey, DuePlan.respelling⟩, dependsOnKey.part, ⟨remindersKey, Reminders.respelling⟩]

def respelling : Respelling :=
  .record parts

theorem respects_respelling : reader.Respects modelKeys respelling := by
  have suits : Suits modelKeys (parts.map (·.key)) := by decide
  have due : ⟨dueKey, DuePlan.respelling⟩ ∈ parts := by simp [parts]
  have reminders : ⟨remindersKey, Reminders.respelling⟩ ∈ parts := by simp [parts]
  refine Reader.respects_record fun {members others} respelled => ?_
  simp only [ofMembers, Checked.inWire_seq, Checked.inWire_map]
  rw [respelled.optional suits due DuePlan.respects_respelling,
    respelled.optional suits reminders Reminders.respects_respelling,
    respelled.optional_part suits (by simp [parts]), respelled.optional_part suits (by simp [parts]),
    respelled.optional_part suits (by simp [parts]), respelled.optional_part suits (by simp [parts]),
    respelled.optional_part suits (by simp [parts])]

end TemplateChanges

namespace Template

/-- The members of a template, with conditions down to a depth. Changes stay with their universities. -/
def parts (depth : Nat) : List Part :=
  [titleKey.part, descriptionKey.part, (Key.plain "category").part, (Key.plain "priority").part,
   ⟨dueKey, DuePlan.respelling⟩, dependsOnKey.part, ⟨autoCompleteKey, (Condition.respelling depth).listOf⟩,
   ⟨remindersKey, Reminders.respelling⟩, ⟨changesKey, TemplateChanges.respelling.entriesOf⟩]

/-- Templates, member by member. -/
def respelling (depth : Nat) : Respelling :=
  .record (parts depth)

theorem suits_parts (depth : Nat) : Suits modelKeys ((parts depth).map (·.key)) := by
  show Suits modelKeys [titleKey, descriptionKey, .plain "category", .plain "priority", dueKey, dependsOnKey,
    autoCompleteKey, remindersKey, changesKey]
  decide

end Template

/-- Conditions of rules come to the same in both spellings. -/
theorem Condition.listReader_respects_modelKeys (depth : Nat) :
    Reader.Respects modelKeys listReader (respelling depth).listOf :=
  listReader_respects (by decide) (by decide) depth

theorem Template.respects_respelling (depth : Nat) : reader.Respects modelKeys (respelling depth) := by
  have suits := suits_parts depth
  have due : ⟨dueKey, DuePlan.respelling⟩ ∈ parts depth := by simp [parts]
  have completed : ⟨autoCompleteKey, (Condition.respelling depth).listOf⟩ ∈ parts depth := by simp [parts]
  have reminders : ⟨remindersKey, Reminders.respelling⟩ ∈ parts depth := by simp [parts]
  have changes : ⟨changesKey, TemplateChanges.respelling.entriesOf⟩ ∈ parts depth := by simp [parts]
  refine Reader.respects_record fun {members others} respelled => ?_
  simp only [ofMembers, Checked.inWire_seq, Checked.inWire_map]
  rw [respelled.optional suits due DuePlan.respects_respelling,
    respelled.optional suits completed (Condition.listReader_respects_modelKeys depth),
    respelled.optional suits reminders Reminders.respects_respelling,
    respelled.withDefault suits changes TemplateChanges.respects_respelling.mapOf,
    respelled.required_part suits (by simp [parts]), respelled.withDefault_part suits (by simp [parts]),
    respelled.withDefault_part suits (by simp [parts]), respelled.withDefault_part suits (by simp [parts]),
    respelled.withDefault_part suits (by simp [parts])]

section Times

variable {α : Type} {time : Value} {members : List (String × Value)}

/-- What a record has for a time by its name on the wire, or else the time that it takes, as it is read. -/
def timeOf (time : Value) (members : List (String × Value)) (name : String) : Checked (Option Timestamp) :=
  Reader.optional Reader.timestamp ((members.lookup name).getD time)

theorem lookup_withTimes_of_mem {name : String} (timed : name ∈ timeNames) :
    (withTimes time members).lookup name = some ((members.lookup name).getD time) := by
  have told : ∀ names : List String,
      (names.map fun name => (name, time)).lookup name = if name ∈ names then some time else none := by
    intro names
    induction names with
    | nil => rfl
    | cons first rest ih =>
      rw [List.map_cons, List.lookup_cons, ih]
      by_cases same : name = first
      · simp [same]
      · simp [same, beq_false_of_ne same]
  show (members ++ (timeNames.filter fun name => (members.lookup name).isNone).map fun name => (name, time)).lookup
    name = _
  rw [List.lookup_append, told]
  cases absent : members.lookup name with
  | some value => rfl
  | none =>
    rw [if_pos (List.mem_filter.mpr ⟨timed, by rw [absent]; rfl⟩)]
    rfl

theorem optional_withTimes {key : Key} (timed : key.wire ∈ timeNames) :
    key.optional Reader.timestamp (withTimes time members) =
      (timeOf time members key.wire).under (.member key.wire) := by
  rw [Key.optional, Key.withDefault, Key.find?, lookup_withTimes_of_mem timed]
  rfl

section Untimed

variable {key : Key} {reader : Reader α} (untimed : key.wire ∉ timeNames ∧ key.internal ∉ timeNames)

include untimed

theorem required_untimed : key.required reader (withTimes time members) = key.required reader members :=
  Key.required_congr (find?_withTimes untimed)

theorem withDefault_untimed (fallback : α) :
    key.withDefault fallback reader (withTimes time members) = key.withDefault fallback reader members :=
  Key.withDefault_congr (find?_withTimes untimed)

theorem optional_untimed : key.optional reader (withTimes time members) = key.optional reader members :=
  withDefault_untimed untimed none

end Untimed

end Times

namespace Rule

/-- The members of a rule, with conditions down to a depth. -/
def parts (depth : Nat) : List Part :=
  [(Key.plain "id").part, (Key.plain "name").part, (Key.plain "description").part,
   (Key.mk "ruleGroup" "rule_group").part, (Key.mk "phase" "phases").part, (Key.mk "visaTypes" "visa_types").part,
   ⟨.plain "conditions", (Condition.respelling depth).listOf⟩,
   ⟨⟨"taskTemplate", "task_template"⟩, Template.respelling depth⟩,
   (Key.plain "priority").part, (Key.mk "isActive" "is_active").part, (Key.plain "version").part,
   (Key.mk "createdAt" "created_at").part, (Key.mk "updatedAt" "updated_at").part,
   (Key.mk "universitySpecific" "university_specific").part, (Key.plain "tags").part]

/-- Rules, member by member. -/
def respelling (depth : Nat) : Respelling :=
  .record (parts depth)

theorem suits_parts (depth : Nat) : Suits modelKeys ((parts depth).map (·.key)) := by
  show Suits modelKeys [.plain "id", .plain "name", .plain "description", ⟨"ruleGroup", "rule_group"⟩,
    ⟨"phase", "phases"⟩, ⟨"visaTypes", "visa_types"⟩, .plain "conditions", ⟨"taskTemplate", "task_template"⟩,
    .plain "priority", ⟨"isActive", "is_active"⟩, .plain "version", ⟨"createdAt", "created_at"⟩,
    ⟨"updatedAt", "updated_at"⟩, ⟨"universitySpecific", "university_specific"⟩, .plain "tags"]
  decide

/-- A rule is read to the same in both spellings, provided that its times are. -/
theorem ofMembers_respelled {depth : Nat} {time : Value} {members others : List (String × Value)}
    (respelled : RespelledMembers (parts depth) members others)
    (timed : ∀ name ∈ timeNames, timeOf time members name = timeOf time others name) :
    (ofMembers (withTimes time members)).inWire modelKeys = (ofMembers (withTimes time others)).inWire modelKeys := by
  have suits := suits_parts depth
  have conditions : ⟨.plain "conditions", (Condition.respelling depth).listOf⟩ ∈ parts depth := by simp [parts]
  have template : ⟨⟨"taskTemplate", "task_template"⟩, Template.respelling depth⟩ ∈ parts depth := by simp [parts]
  simp only [ofMembers, Checked.inWire_seq, Checked.inWire_map]
  simp (disch := decide) only [required_untimed, withDefault_untimed, optional_untimed, optional_withTimes]
  rw [respelled.required suits conditions (Condition.listReader_respects_modelKeys depth),
    respelled.required suits template (Template.respects_respelling depth),
    respelled.required_part suits (by simp [parts]), respelled.required_part suits (by simp [parts]),
    respelled.withDefault_part suits (by simp [parts]), respelled.required_part suits (by simp [parts]),
    respelled.required_part suits (by simp [parts]), respelled.required_part suits (by simp [parts]),
    respelled.withDefault_part suits (by simp [parts]), respelled.withDefault_part suits (by simp [parts]),
    respelled.withDefault_part suits (by simp [parts]), timed "createdAt" (by simp [timeNames]),
    timed "updatedAt" (by simp [timeNames]), respelled.optional_part suits (by simp [parts]),
    respelled.withDefault_part suits (by simp [parts])]

end Rule

end Obligations
