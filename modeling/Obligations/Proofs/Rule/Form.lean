import Obligations.Proofs.Schema.Reading
import Obligations.Rule.Basic

/-! # How rules are read

A rule has been read from the members of a record exactly if each of its parts has been read from the
member of its key. So has the template of a rule, and what universities change in it.
-/

namespace Obligations

open Obligations.Schema

namespace Reminders

/-- Whether the parts of reminders are what the members of a record are read as. -/
structure IsReadFrom (reminders : Reminders) (members : List (String × Value)) : Prop where
  intervals : (Key.plain "intervals").withDefault [] (Reader.listOf Reader.int) members =
    .ok reminders.intervals
  message : (Key.mk "customMessage" "custom_message").optional Reader.text members = .ok reminders.message

theorem ofMembers_eq_ok {reminders : Reminders} {members : List (String × Value)} :
    ofMembers members = .ok reminders ↔ reminders.IsReadFrom members := by
  rw [ofMembers]
  simp only [Checked.seq_eq_ok, Checked.map_eq_ok]
  constructor
  · rintro ⟨_, _, ⟨_, intervals, rfl⟩, message, rfl⟩
    exact ⟨intervals, message⟩
  · intro read
    exact ⟨_, _, ⟨_, read.intervals, rfl⟩, read.message, rfl⟩

end Reminders

namespace TemplateChanges

/-- Whether changes of a template are what the members of a record are read as. -/
structure IsReadFrom (changes : TemplateChanges) (members : List (String × Value)) : Prop where
  title : titleKey.optional Reader.text members = .ok changes.title
  description : descriptionKey.optional Reader.text members = .ok changes.description
  category : (Key.plain "category").optional Reader.text members = .ok changes.category
  priority : (Key.plain "priority").optional (Reader.code Priority.ofCode?) members = .ok changes.priority
  due : dueKey.optional DuePlan.reader members = .ok changes.due
  dependsOn : dependsOnKey.optional (Reader.listOf Reader.text) members = .ok changes.dependsOn
  reminders : remindersKey.optional Reminders.reader members = .ok changes.reminders

theorem ofMembers_eq_ok {changes : TemplateChanges} {members : List (String × Value)} :
    ofMembers members = .ok changes ↔ changes.IsReadFrom members := by
  rw [ofMembers]
  simp only [Checked.seq_eq_ok, Checked.map_eq_ok]
  constructor
  · rintro ⟨_, _, ⟨_, _, ⟨_, _, ⟨_, _, ⟨_, _, ⟨_, _, ⟨_, title, rfl⟩, description, rfl⟩, category, rfl⟩,
      priority, rfl⟩, due, rfl⟩, dependsOn, rfl⟩, reminders, rfl⟩
    exact ⟨title, description, category, priority, due, dependsOn, reminders⟩
  · intro read
    exact ⟨_, _, ⟨_, _, ⟨_, _, ⟨_, _, ⟨_, _, ⟨_, _, ⟨_, read.title, rfl⟩, read.description, rfl⟩,
      read.category, rfl⟩, read.priority, rfl⟩, read.due, rfl⟩, read.dependsOn, rfl⟩, read.reminders, rfl⟩

end TemplateChanges

namespace Template

/-- Whether the parts of a template are what the members of a record are read as. -/
structure IsReadFrom (template : Template) (members : List (String × Value)) : Prop where
  title : titleKey.required Reader.nonEmptyText members = .ok template.title
  description : descriptionKey.withDefault "" Reader.text members = .ok template.description
  category : (Key.plain "category").withDefault "general" Reader.text members = .ok template.category
  priority : (Key.plain "priority").withDefault .medium (Reader.code Priority.ofCode?) members =
    .ok template.priority
  due : dueKey.optional DuePlan.reader members = .ok template.due
  dependsOn : dependsOnKey.withDefault [] (Reader.listOf Reader.text) members = .ok template.dependsOn
  autoComplete : autoCompleteKey.optional Condition.listReader members = .ok template.autoComplete
  reminders : remindersKey.optional Reminders.reader members = .ok template.reminders
  changes : changesKey.withDefault [] (Reader.mapOf TemplateChanges.reader) members = .ok template.changes

theorem ofMembers_eq_ok {template : Template} {members : List (String × Value)} :
    ofMembers members = .ok template ↔ template.IsReadFrom members := by
  rw [ofMembers]
  simp only [Checked.seq_eq_ok, Checked.map_eq_ok]
  constructor
  · rintro ⟨_, _, ⟨_, _, ⟨_, _, ⟨_, _, ⟨_, _, ⟨_, _, ⟨_, _, ⟨_, _, ⟨_, title, rfl⟩, description, rfl⟩,
      category, rfl⟩, priority, rfl⟩, due, rfl⟩, dependsOn, rfl⟩, autoComplete, rfl⟩, reminders, rfl⟩, changes, rfl⟩
    exact ⟨title, description, category, priority, due, dependsOn, autoComplete, reminders, changes⟩
  · intro read
    exact ⟨_, _, ⟨_, _, ⟨_, _, ⟨_, _, ⟨_, _, ⟨_, _, ⟨_, _, ⟨_, _, ⟨_, read.title, rfl⟩, read.description, rfl⟩,
      read.category, rfl⟩, read.priority, rfl⟩, read.due, rfl⟩, read.dependsOn, rfl⟩, read.autoComplete, rfl⟩,
      read.reminders, rfl⟩, read.changes, rfl⟩

end Template

namespace Rule

/-- Whether the parts of a rule are what the members of a record are read as. -/
structure IsReadFrom (rule : Rule) (members : List (String × Value)) : Prop where
  id : (Key.plain "id").required Reader.text members = .ok rule.id
  name : (Key.plain "name").required Reader.text members = .ok rule.name
  description : (Key.plain "description").withDefault "" Reader.text members = .ok rule.description
  group : (Key.mk "ruleGroup" "rule_group").required (Reader.code RuleGroup.ofCode?) members =
    .ok rule.group
  phases : (Key.mk "phase" "phases").required phasesReader members = .ok rule.phases
  visaTypes : (Key.mk "visaTypes" "visa_types").required (Reader.listOf (Reader.code VisaType.ofCode?))
    members = .ok rule.visaTypes
  conditions : (Key.plain "conditions").required Condition.listReader members = .ok rule.conditions
  template : (Key.mk "taskTemplate" "task_template").required Template.reader members = .ok rule.template
  priority : (Key.plain "priority").withDefault 50 (Reader.intWithin (some 0) (some 100)) members =
    .ok rule.priority
  isActive : (Key.mk "isActive" "is_active").withDefault true Reader.bool members = .ok rule.isActive
  version : (Key.plain "version").withDefault "1.0.0" Reader.text members = .ok rule.version
  createdAt : (Key.mk "createdAt" "created_at").optional Reader.timestamp members = .ok rule.createdAt
  updatedAt : (Key.mk "updatedAt" "updated_at").optional Reader.timestamp members = .ok rule.updatedAt
  university : (Key.mk "universitySpecific" "university_specific").optional Reader.text members =
    .ok rule.university
  tags : (Key.plain "tags").withDefault [] (Reader.listOf Reader.text) members = .ok rule.tags

theorem ofMembers_eq_ok {rule : Rule} {members : List (String × Value)} :
    ofMembers members = .ok rule ↔ rule.IsReadFrom members := by
  rw [ofMembers]
  simp only [Checked.seq_eq_ok, Checked.map_eq_ok]
  constructor
  · rintro ⟨_, _, ⟨_, _, ⟨_, _, ⟨_, _, ⟨_, _, ⟨_, _, ⟨_, _, ⟨_, _, ⟨_, _, ⟨_, _, ⟨_, _, ⟨_, _, ⟨_, _, ⟨_, _,
      ⟨_, id, rfl⟩, name, rfl⟩, description, rfl⟩, group, rfl⟩, phases, rfl⟩, visaTypes, rfl⟩, conditions, rfl⟩,
      template, rfl⟩, priority, rfl⟩, isActive, rfl⟩, version, rfl⟩, createdAt, rfl⟩, updatedAt, rfl⟩,
      university, rfl⟩, tags, rfl⟩
    exact ⟨id, name, description, group, phases, visaTypes, conditions, template, priority, isActive,
      version, createdAt, updatedAt, university, tags⟩
  · intro read
    exact ⟨_, _, ⟨_, _, ⟨_, _, ⟨_, _, ⟨_, _, ⟨_, _, ⟨_, _, ⟨_, _, ⟨_, _, ⟨_, _, ⟨_, _, ⟨_, _, ⟨_, _, ⟨_, _,
      ⟨_, read.id, rfl⟩, read.name, rfl⟩, read.description, rfl⟩, read.group, rfl⟩, read.phases, rfl⟩, read.visaTypes, rfl⟩,
      read.conditions, rfl⟩, read.template, rfl⟩, read.priority, rfl⟩, read.isActive, rfl⟩, read.version, rfl⟩,
      read.createdAt, rfl⟩, read.updatedAt, rfl⟩, read.university, rfl⟩, read.tags, rfl⟩

end Rule

end Obligations
