import Obligations.Proofs.Condition.Recovery
import Obligations.Proofs.DueDate.Recovery
import Obligations.Proofs.Rule.Form

/-! # Recovering rules

A rule is read again from a document exactly if all offsets in it are: those of its plans, whatever university
they are for, and those of its requirements, however deep they lie. What is read is the rule with the operands in it as
a document has them.
-/

namespace Obligations

open Obligations.Schema

theorem Priority.ofCode?_code (priority : Priority) : ofCode? priority.code = some priority := by
  cases priority <;> rfl

theorem RuleGroup.ofCode?_code (group : RuleGroup) : ofCode? group.code = some group := by
  cases group <;> rfl

theorem Phase.recovers (phase : Phase) : Reader.Recovers (Reader.code ofCode?) .phase phase := by
  cases phase <;> rfl

theorem VisaType.recovers (visa : VisaType) : Reader.Recovers (Reader.code ofCode?) .visa visa := by
  cases visa <;> rfl

theorem Reminders.recovers (reminders : Reminders) : Reader.Recovers reader toValue reminders := by
  have written : reminders.toValue.plain = .map [
      ("intervals", (Value.list (reminders.intervals.map .int)).plain),
      ("customMessage", (Value.ofOption .text reminders.message).plain)] := Value.plain_map _
  rw [Reader.Recovers, written, reader, Reader.record, ofMembers_eq_ok]
  exact {
    intervals := (Key.withDefault_of_lookup rfl).mpr
      (Reader.recovers_listOf.mpr fun n _ => Reader.recovers_int n)
    message := (Key.optional_of_lookup rfl).mpr (Reader.recovers_optionalText reminders.message) }

namespace DuePlan

theorem recovers_optional {due : Option DuePlan} {members : List (String × Value)}
    (read : dueKey.optional reader members = .ok due) :
    Reader.Recovers (Reader.optional reader) (.ofOption toValue) due ↔ ∀ plan ∈ due, plan.IsTold := by
  rw [Reader.recovers_optional fun _ => by rintro ⟨⟩]
  refine forall₂_congr fun plan member => ?_
  cases member
  obtain ⟨value, -, own⟩ := Key.exists_of_optional read
  exact recovers_iff own

end DuePlan

theorem Reminders.recovers_optional (reminders : Option Reminders) :
    Reader.Recovers (Reader.optional reader) (.ofOption toValue) reminders :=
  (Reader.recovers_optional fun _ => by rintro ⟨⟩).mpr fun reminders _ => reminders.recovers

namespace TemplateChanges

variable {changes : TemplateChanges} {value : Value}

theorem exists_isReadFrom (read : reader value = .ok changes) :
    ∃ members, value = .map members ∧ changes.IsReadFrom members := by
  obtain ⟨members, rfl, read⟩ := Reader.record_eq_ok.mp read
  exact ⟨members, rfl, ofMembers_eq_ok.mp read⟩

/-- The members of changes in a document. -/
theorem plain_toValue (changes : TemplateChanges) : changes.toValue.plain = .map [
    ("titleTemplate", (Value.ofOption .text changes.title).plain),
    ("descriptionTemplate", (Value.ofOption .text changes.description).plain),
    ("category", (Value.ofOption .text changes.category).plain),
    ("priority", (Value.ofOption (.text ·.code) changes.priority).plain),
    ("dueDateConfig", (Value.ofOption DuePlan.toValue changes.due).plain),
    ("dependsOn", (Value.ofOption (fun ids => .list (ids.map .text)) changes.dependsOn).plain),
    ("reminderSchedule", (Value.ofOption Reminders.toValue changes.reminders).plain)] :=
  Value.plain_map _

/-- Changes are recovered exactly if the plan in them is. -/
theorem recovers_iff (read : reader value = .ok changes) :
    Reader.Recovers reader toValue changes ↔ ∀ plan ∈ changes.due, plan.IsTold := by
  obtain ⟨members, rfl, parts⟩ := exists_isReadFrom read
  rw [← DuePlan.recovers_optional parts.due, Reader.Recovers, plain_toValue, reader, Reader.record,
    ofMembers_eq_ok]
  constructor
  · intro recovered
    exact (Key.optional_of_lookup rfl).mp recovered.due
  · intro recovered
    have priority : Reader.Recovers (Reader.optional (Reader.code Priority.ofCode?))
        (.ofOption (.text ·.code)) changes.priority :=
      (Reader.recovers_optional fun _ => by rintro ⟨⟩).mpr fun level _ =>
        Reader.recovers_code level.ofCode?_code
    have dependsOn : Reader.Recovers (Reader.optional (Reader.listOf Reader.text))
        (.ofOption fun ids => .list (ids.map .text)) changes.dependsOn :=
      (Reader.recovers_optional fun _ => by rw [Value.plain_list]; rintro ⟨⟩).mpr fun ids _ =>
        Reader.recovers_texts ids
    exact {
      title := (Key.optional_of_lookup rfl).mpr (Reader.recovers_optionalText changes.title)
      description := (Key.optional_of_lookup rfl).mpr (Reader.recovers_optionalText changes.description)
      category := (Key.optional_of_lookup rfl).mpr (Reader.recovers_optionalText changes.category)
      priority := (Key.optional_of_lookup rfl).mpr priority
      due := (Key.optional_of_lookup rfl).mpr recovered
      dependsOn := (Key.optional_of_lookup rfl).mpr dependsOn
      reminders := (Key.optional_of_lookup rfl).mpr (Reminders.recovers_optional changes.reminders) }

end TemplateChanges

namespace Template

variable {template : Template} {value : Value}

/-- All plans of a template, its own and those of universities. -/
def plans (template : Template) : List DuePlan :=
  template.due.toList ++ template.changes.flatMap (·.2.due.toList)

/-- The requirements that complete an obligation. -/
def requirements (template : Template) : List Requirement :=
  Condition.requirementsOf (template.autoComplete.getD [])

theorem exists_isReadFrom (read : reader value = .ok template) :
    ∃ members, value = .map members ∧ template.IsReadFrom members := by
  obtain ⟨members, rfl, read⟩ := Reader.record_eq_ok.mp read
  exact ⟨members, rfl, ofMembers_eq_ok.mp read⟩

/-- The members of a template in a document. -/
theorem plain_toValue (template : Template) : template.toValue.plain = .map [
    ("titleTemplate", .text template.title),
    ("descriptionTemplate", .text template.description),
    ("category", .text template.category),
    ("priority", .text template.priority.code),
    ("dueDateConfig", (Value.ofOption DuePlan.toValue template.due).plain),
    ("dependsOn", (Value.list (template.dependsOn.map .text)).plain),
    ("autoCompleteConditions",
      (Value.ofOption (fun conditions => .list (Condition.toValues conditions)) template.autoComplete).plain),
    ("reminderSchedule", (Value.ofOption Reminders.toValue template.reminders).plain),
    ("universityOverrides",
      (Value.map (template.changes.map fun (university, changes) => (university, changes.toValue))).plain)] :=
  Value.plain_map _

theorem exists_changes {members : List (String × Value)} (parts : template.IsReadFrom members)
    {entry : String × TemplateChanges} (member : entry ∈ template.changes) :
    ∃ value, TemplateChanges.reader value = .ok entry.2 := by
  rcases Key.withDefault_eq_ok.mp parts.changes with ⟨-, none⟩ | ⟨_, value, -, read⟩
  · rw [← none] at member
    cases member
  · cases value with
    | map entries =>
      obtain ⟨given, -, -, own⟩ := Reader.exists_given (Reader.entries_eq_ok.mp read) member
      exact ⟨given.2, own⟩
    | _ => cases read

/-- The template with all operands in it as they are in a document. -/
def plain (template : Template) : Template :=
  { template with autoComplete := template.autoComplete.map (·.map Condition.plain) }

theorem plain_eq_self_iff :
    template.plain = template ↔ ∀ requirement ∈ template.requirements, requirement.plain = requirement := by
  have own : template.plain = template ↔
      template.autoComplete.map (·.map Condition.plain) = template.autoComplete := by
    constructor
    · exact congrArg Template.autoComplete
    · intro same
      rw [plain, same]
  rw [own, requirements]
  cases template.autoComplete with
  | none => simp [Condition.requirementsOf]
  | some conditions =>
    rw [Option.map_some, Option.some.injEq, Option.getD_some, Condition.map_plain_eq_self_iff]
    exact Condition.forall_requirementsOf fun _ _ => Condition.plain_eq_self_iff

theorem forall_plans_iff {P : DuePlan → Prop} : (∀ plan ∈ template.plans, P plan) ↔
    (∀ plan ∈ template.due, P plan) ∧ ∀ entry ∈ template.changes, ∀ plan ∈ entry.2.due, P plan := by
  simp only [plans, List.mem_append, or_imp, forall_and, Option.mem_toList, List.mem_flatMap]
  refine and_congr_right fun _ => ?_
  constructor
  · intro all entry member plan own
    exact all plan ⟨entry, member, own⟩
  · rintro all plan ⟨entry, member, own⟩
    exact all entry member plan own

section Parts

variable {members : List (String × Value)} (parts : template.IsReadFrom members)
include parts

/-- What universities change is recovered exactly if the plans in it are. -/
theorem recovers_changes_iff :
    Reader.Recovers (Reader.mapOf TemplateChanges.reader)
        (fun changes => .map (changes.map fun (university, changes) => (university, changes.toValue)))
        template.changes ↔
      ∀ entry ∈ template.changes, ∀ plan ∈ entry.2.due, plan.IsTold := by
  rw [Reader.recovers_mapOf]
  refine forall₂_congr fun entry member => ?_
  obtain ⟨value, own⟩ := exists_changes parts member
  exact TemplateChanges.recovers_iff own

/-- The conditions that complete an obligation are read again exactly if the times of their requirements are. -/
theorem optional_plain_autoComplete_iff :
    Reader.optional Condition.listReader (Value.ofOption
        (fun conditions => .list (Condition.toValues conditions)) template.autoComplete).plain =
          .ok template.plain.autoComplete ↔
      ∀ requirement ∈ template.requirements, requirement.IsTold := by
  rw [plain, Reader.optional_plain_ofOption fun _ => by rw [Value.plain_list]; rintro ⟨⟩, requirements]
  cases given : template.autoComplete with
  | none => simp [Condition.requirementsOf]
  | some conditions =>
    obtain ⟨value, -, own⟩ := Key.exists_of_optional (given ▸ parts.autoComplete)
    rw [Option.getD_some]
    simp only [Option.mem_some_iff, forall_eq']
    exact Condition.listReader_plain_iff own

end Parts

/-- A template is read again exactly if its plans and requirements are. -/
theorem reader_plain_toValue_iff (read : reader value = .ok template) :
    reader template.toValue.plain = .ok template.plain ↔
      (∀ plan ∈ template.plans, plan.IsTold) ∧ ∀ requirement ∈ template.requirements, requirement.IsTold := by
  obtain ⟨members, rfl, parts⟩ := exists_isReadFrom read
  rw [forall_plans_iff, ← DuePlan.recovers_optional parts.due, ← recovers_changes_iff parts,
    ← optional_plain_autoComplete_iff parts, plain_toValue, reader, Reader.record, ofMembers_eq_ok]
  constructor
  · intro recovered
    have due := (Key.optional_of_lookup rfl).mp recovered.due
    have changes := (Key.withDefault_of_lookup rfl).mp recovered.changes
    exact ⟨⟨due, changes⟩, (Key.optional_of_lookup rfl).mp recovered.autoComplete⟩
  · -- all other members are recovered whatever they are
    rintro ⟨⟨due, changes⟩, autoComplete⟩
    obtain ⟨_, _, -, named⟩ := Key.required_eq_ok.mp parts.title
    exact {
      title := (Key.required_of_lookup rfl).mpr
        (Reader.recovers_nonEmptyText (Reader.isEmpty_of_nonEmptyText named))
      description := (Key.withDefault_of_lookup rfl).mpr (Reader.recovers_text template.description)
      category := (Key.withDefault_of_lookup rfl).mpr (Reader.recovers_text template.category)
      priority := (Key.withDefault_of_lookup rfl).mpr (Reader.recovers_code template.priority.ofCode?_code)
      due := (Key.optional_of_lookup rfl).mpr due
      dependsOn := (Key.withDefault_of_lookup rfl).mpr (Reader.recovers_texts template.dependsOn)
      autoComplete := (Key.optional_of_lookup rfl).mpr autoComplete
      reminders := (Key.optional_of_lookup rfl).mpr (Reminders.recovers_optional template.reminders)
      changes := (Key.withDefault_of_lookup rfl).mpr changes }

end Template

namespace Rule

variable {rule : Rule} {value : Value}

/-- All plans of a rule, its own and those of universities. -/
def plans (rule : Rule) : List DuePlan :=
  rule.template.plans

/-- All requirements of a rule: those that oblige its subjects, and those that complete the obligation. -/
def requirements (rule : Rule) : List Requirement :=
  Condition.requirementsOf rule.conditions ++ rule.template.requirements

theorem exists_isReadFrom (read : reader value = .ok rule) :
    ∃ members, value = .map members ∧ rule.IsReadFrom members := by
  obtain ⟨members, rfl, read⟩ := Reader.record_eq_ok.mp read
  exact ⟨members, rfl, ofMembers_eq_ok.mp read⟩

/-- The members of a rule in a document. -/
theorem plain_toValue (rule : Rule) : rule.toValue.plain = .map [
    ("id", .text rule.id),
    ("name", .text rule.name),
    ("description", .text rule.description),
    ("ruleGroup", .text rule.group.code),
    ("phase", (Value.list (rule.phases.map .phase)).plain),
    ("visaTypes", (Value.list (rule.visaTypes.map .visa)).plain),
    ("conditions", (Value.list (Condition.toValues rule.conditions)).plain),
    ("taskTemplate", rule.template.toValue.plain),
    ("priority", .int rule.priority),
    ("isActive", .bool rule.isActive),
    ("version", .text rule.version),
    ("createdAt", (Value.ofOption .stamp rule.createdAt).plain),
    ("updatedAt", (Value.ofOption .stamp rule.updatedAt).plain),
    ("universitySpecific", (Value.ofOption .text rule.university).plain),
    ("tags", (Value.list (rule.tags.map .text)).plain)] :=
  Value.plain_map _

/-- The rule with all operands in it as they are in a document: infinite numbers, and what is no number, are null. -/
def plain (rule : Rule) : Rule :=
  { rule with conditions := rule.conditions.map Condition.plain, template := rule.template.plain }

theorem plain_eq_self_iff :
    rule.plain = rule ↔ ∀ requirement ∈ rule.requirements, requirement.plain = requirement := by
  have own : rule.plain = rule ↔
      rule.conditions.map Condition.plain = rule.conditions ∧ rule.template.plain = rule.template := by
    constructor
    · exact fun same => ⟨congrArg Rule.conditions same, congrArg Rule.template same⟩
    · rintro ⟨conditions, template⟩
      rw [plain, conditions, template]
  have conditions : rule.conditions.map Condition.plain = rule.conditions ↔
      ∀ requirement ∈ Condition.requirementsOf rule.conditions, requirement.plain = requirement :=
    Condition.map_plain_eq_self_iff.trans
      (Condition.forall_requirementsOf fun _ _ => Condition.plain_eq_self_iff)
  rw [own, conditions, Template.plain_eq_self_iff, requirements, List.forall_mem_append]

/-- The stages of a rule are recovered as a list, and so not read as a single one. -/
theorem recovers_phases (phases : List Phase) :
    Reader.Recovers phasesReader (fun phases => .list (phases.map .phase)) phases := by
  have each : Reader.Recovers (Reader.listOf (Reader.code Phase.ofCode?))
      (fun phases => .list (phases.map .phase)) phases :=
    Reader.recovers_listOf.mpr fun phase _ => phase.recovers
  rw [Reader.Recovers] at each ⊢
  rw [← each, Value.plain_list]
  rfl

theorem recovers_priority {members : List (String × Value)} (parts : rule.IsReadFrom members) :
    Reader.Recovers (Reader.intWithin (some 0) (some 100)) .int rule.priority := by
  rcases Key.withDefault_eq_ok.mp parts.priority with ⟨-, fallback⟩ | ⟨_, _, -, within⟩
  · rw [← fallback]
    rfl
  · exact Reader.recovers_intWithin within

/-- A rule that has been read from a document is read again from one exactly if its plans and requirements are. -/
theorem reader_plain_toValue_iff (read : reader value = .ok rule) (json : value.isJson = true) :
    reader rule.toValue.plain = .ok rule.plain ↔
      (∀ plan ∈ rule.plans, plan.IsTold) ∧ ∀ requirement ∈ rule.requirements, requirement.IsTold := by
  obtain ⟨members, rfl, parts⟩ := exists_isReadFrom read
  obtain ⟨_, given, there, own⟩ := Key.required_eq_ok.mp parts.template
  have template := Template.reader_plain_toValue_iff own
  obtain ⟨_, given, there, own⟩ := Key.required_eq_ok.mp parts.conditions
  have conditions := Condition.listReader_plain_iff own
  have all : (∀ requirement ∈ rule.requirements, requirement.IsTold) ↔
      (∀ requirement ∈ Condition.requirementsOf rule.conditions, requirement.IsTold) ∧
        ∀ requirement ∈ rule.template.requirements, requirement.IsTold := by
    rw [requirements, List.forall_mem_append]
  rw [plans, all, ← conditions, and_left_comm, ← template, plain_toValue, reader, Reader.record, ofMembers_eq_ok]
  constructor
  · intro recovered
    exact ⟨(Key.required_of_lookup rfl).mp recovered.conditions,
      (Key.required_of_lookup rfl).mp recovered.template⟩
  · rintro ⟨conditions, template⟩
    have priority := recovers_priority parts
    exact {
      id := (Key.required_of_lookup rfl).mpr (Reader.recovers_text rule.id)
      name := (Key.required_of_lookup rfl).mpr (Reader.recovers_text rule.name)
      description := (Key.withDefault_of_lookup rfl).mpr (Reader.recovers_text rule.description)
      group := (Key.required_of_lookup rfl).mpr (Reader.recovers_code rule.group.ofCode?_code)
      phases := (Key.required_of_lookup rfl).mpr (recovers_phases rule.phases)
      visaTypes := (Key.required_of_lookup rfl).mpr (Reader.recovers_listOf.mpr fun visa _ => visa.recovers)
      conditions := (Key.required_of_lookup rfl).mpr conditions
      template := (Key.required_of_lookup rfl).mpr template
      priority := (Key.withDefault_of_lookup rfl).mpr priority
      isActive := (Key.withDefault_of_lookup rfl).mpr (Reader.recovers_bool rule.isActive)
      version := (Key.withDefault_of_lookup rfl).mpr (Reader.recovers_text rule.version)
      createdAt := (Key.optional_of_lookup rfl).mpr (Reader.recovers_optionalTimestamp parts.createdAt json)
      updatedAt := (Key.optional_of_lookup rfl).mpr (Reader.recovers_optionalTimestamp parts.updatedAt json)
      university := (Key.optional_of_lookup rfl).mpr (Reader.recovers_optionalText rule.university)
      tags := (Key.withDefault_of_lookup rfl).mpr (Reader.recovers_texts rule.tags) }

end Rule

end Obligations
