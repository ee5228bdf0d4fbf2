import Obligations.Proofs.Rule.Recovery

/-! # Offsets in rule documents

The plans of a rule are what the plans in its document have been read as, and its requirements what the leaves
of the conditions there have been read as.
-/

namespace Obligations

open Obligations.Schema

namespace Schema.Key

variable {α : Type} {key : Key} {reader : Reader α} {members : List (String × Value)}

/-- A member that may be left out is read from what is given, if anything is. -/
theorem forall₂_given? {content : Option α} (read : key.optional reader members = .ok content) :
    List.Forall₂ (fun value result => reader value = .ok result) (key.given? (.map members)).toList
      content.toList := by
  cases given : key.given? (.map members) with
  | none =>
    rw [optional_of_none given] at read
    cases read
    exact .nil
  | some value =>
    obtain ⟨result, own, rfl⟩ := (optional_of_some given).mp read
    exact .cons own .nil

theorem given?_of_find? {name : String} {value : Value} {result : α}
    (strict : ∀ result, reader .null ≠ .ok result) (found : key.find? members = some (name, value)) (read : reader value = .ok result) :
    key.given? (.map members) = some value := by
  have solid : value.isNull = false := by
    cases value with
    | null => exact absurd read (strict result)
    | _ => rfl
  rw [given?, found, Option.map_some, Option.filter_some_pos (by simp [solid])]

/-- A member that has to be there is read from what is given, unless it is read from null. -/
theorem exists_given? (strict : ∀ result, reader .null ≠ .ok result) {result : α}
    (read : key.required reader members = .ok result) :
    ∃ value, key.given? (.map members) = some value ∧ reader value = .ok result := by
  obtain ⟨name, value, found, own⟩ := required_eq_ok.mp read
  exact ⟨value, given?_of_find? strict found own, own⟩

end Schema.Key

namespace Condition

def leavesAt (key : Key) (value : Value) : List Value :=
  match key.given? value with
  | some (.list items) => leavesOf items
  | _ => []

theorem forall₂_leavesAt {key : Key} {value given : Value} {conditions : List Condition}
    (there : key.given? value = some given) (read : listReader given = .ok conditions) :
    List.Forall₂ (fun leaf requirement => Requirement.reader leaf = .ok requirement) (leavesAt key value)
      (requirementsOf conditions) := by
  obtain ⟨items, rfl, inside⟩ := listReader_eq_ok.mp read
  rw [leavesAt, there]
  exact forall₂_leavesOf inside

end Condition

namespace Template

variable {value : Value} {template : Template}

/-- What universities change in the template of a document. -/
def changesIn (value : Value) : List Value :=
  match changesKey.given? value with
  | some (.map entries) => entries.map (·.2)
  | _ => []

/-- All plans in the template of a document, its own and those of universities. -/
def plansIn (value : Value) : List Value :=
  (dueKey.given? value).toList ++ (changesIn value).flatMap fun changes => (dueKey.given? changes).toList

theorem forall₂_changesIn (read : reader value = .ok template) :
    List.Forall₂ (fun value changes => TemplateChanges.reader value = .ok changes) (changesIn value)
      (template.changes.map (·.2)) := by
  obtain ⟨members, rfl, parts⟩ := exists_isReadFrom read
  rcases Key.withDefault_eq_ok.mp parts.changes with ⟨absent, none⟩ | ⟨_, given, found, own⟩
  · rw [changesIn, Key.given?, absent, ← none]
    exact .nil
  · rw [changesIn, Key.given?_of_find? (by rintro _ ⟨⟩) found own]
    cases given with
    | map entries =>
      rw [List.forall₂_map_right_iff, List.forall₂_map_left_iff]
      exact (Reader.entries_eq_ok.mp own).imp fun _ _ => And.right
    | _ => cases own

/-- The plans of a template are what those of its document have been read as. -/
theorem forall₂_plansIn (read : reader value = .ok template) :
    List.Forall₂ (fun value plan => DuePlan.reader value = .ok plan) (plansIn value) template.plans := by
  have changes := forall₂_changesIn read
  obtain ⟨members, rfl, parts⟩ := exists_isReadFrom read
  have together : template.changes.flatMap (·.2.due.toList) =
      (template.changes.map (·.2)).flatMap (·.due.toList) := by
    rw [List.flatMap_map]
  rw [plans, together]
  refine List.rel_append (Key.forall₂_given? parts.due) ?_
  refine List.rel_flatMap changes fun given changes own => ?_
  obtain ⟨others, rfl, parts⟩ := TemplateChanges.exists_isReadFrom own
  exact Key.forall₂_given? parts.due

/-- The requirements of a template are what the leaves in its document have been read as. -/
theorem forall₂_leavesAt (read : reader value = .ok template) :
    List.Forall₂ (fun leaf requirement => Requirement.reader leaf = .ok requirement)
      (Condition.leavesAt autoCompleteKey value) template.requirements := by
  obtain ⟨members, rfl, parts⟩ := exists_isReadFrom read
  rw [requirements]
  cases completed : template.autoComplete with
  | none =>
    have absent := Key.forall₂_given? (completed ▸ parts.autoComplete)
    rw [Condition.leavesAt, Option.toList_eq_nil_iff.mp (List.forall₂_nil_right_iff.mp absent)]
    exact .nil
  | some conditions =>
    obtain ⟨given, there, own⟩ := Key.exists_of_optional (completed ▸ parts.autoComplete)
    exact Condition.forall₂_leavesAt there own

end Template

namespace Rule

variable {value : Value} {rule : Rule}

/-- The member with the template of a rule. -/
def templateKey : Key := ⟨"taskTemplate", "task_template"⟩

/-- The member with the conditions of a rule. -/
def conditionsKey : Key := .plain "conditions"

def plansIn (value : Value) : List Value :=
  (templateKey.given? value).toList.flatMap Template.plansIn

def leavesIn (value : Value) : List Value :=
  Condition.leavesAt conditionsKey value ++
    (templateKey.given? value).toList.flatMap (Condition.leavesAt autoCompleteKey)

/-- The plans of a rule are what those of its document have been read as. -/
theorem forall₂_plansIn (read : reader value = .ok rule) :
    List.Forall₂ (fun value plan => DuePlan.reader value = .ok plan) (plansIn value) rule.plans := by
  obtain ⟨members, rfl, parts⟩ := exists_isReadFrom read
  obtain ⟨given, there, own⟩ := Key.exists_given? (by rintro _ ⟨⟩) parts.template
  have template : templateKey.given? (.map members) = some given := there
  rw [plansIn, template, plans, Option.toList_some, List.flatMap_singleton]
  exact Template.forall₂_plansIn own

/-- The requirements of a rule are what the leaves in its document have been read as. -/
theorem forall₂_leavesIn (read : reader value = .ok rule) :
    List.Forall₂ (fun leaf requirement => Requirement.reader leaf = .ok requirement) (leavesIn value)
      rule.requirements := by
  obtain ⟨members, rfl, parts⟩ := exists_isReadFrom read
  obtain ⟨given, there, own⟩ := Key.exists_given? (by rintro _ ⟨⟩) parts.template
  obtain ⟨_, held, conditions⟩ := Key.exists_given? (by rintro _ ⟨⟩) parts.conditions
  have template : templateKey.given? (.map members) = some given := there
  refine List.rel_append (Condition.forall₂_leavesAt held conditions) ?_
  rw [template, Option.toList_some, List.flatMap_singleton]
  exact Template.forall₂_leavesAt own

end Rule

/-- The offset that a plan in a document gives by its parts. -/
def DuePlan.byParts? (value : Value) : Option Offset :=
  ((Key.plain "offset").given? value).bind Offset.byParts?

/-- The time that a leaf in a document gives by its parts. -/
def Requirement.byParts? (value : Value) : Option Offset :=
  (timeKey.given? value).bind Offset.byParts?

section Parts

variable {value : Value} {P : Offset → Prop}

/-- What holds of all calendar offsets in text holds of the offset of a plan, unless this is given by parts. -/
theorem DuePlan.forall_iff_byParts {plan : DuePlan}
    (texts : ∀ content offset, Offset.ofText content = .ok offset → P offset)
    (read : reader value = .ok plan) :
    (∀ offset ∈ plan.offset, P offset) ↔ ∀ offset ∈ byParts? value, P offset := by
  obtain ⟨members, rfl, parts⟩ := exists_isReadFrom read
  exact Offset.forall_iff_byParts texts parts.offset

/-- What holds of all durations in text holds of the time of a requirement, unless this is given by parts. -/
theorem Requirement.forall_iff_byParts {requirement : Requirement}
    (texts : ∀ content offset, Offset.durationOfText content = .ok offset → P offset)
    (read : reader value = .ok requirement) :
    (∀ time ∈ requirement.time, P time) ↔ ∀ time ∈ byParts? value, P time := by
  obtain ⟨members, rfl, parts⟩ := exists_isReadFrom read
  exact Offset.forall_iff_byParts texts parts.time

end Parts

theorem DuePlan.isTold_iff {value : Value} {plan : DuePlan} (read : reader value = .ok plan) :
    plan.IsTold ↔ ∀ offset ∈ byParts? value, offset.unit ∈ Offset.calendarUnits ∧ offset.IsShort := by
  rw [← forall_iff_byParts (fun _ _ => Offset.ofText_spec) read, IsTold]
  simp [Offset.recovers_iff, Offset.ofText_text]

theorem Requirement.isTold_iff {value : Value} {requirement : Requirement}
    (read : reader value = .ok requirement) :
    requirement.IsTold ↔ ∀ time ∈ byParts? value, 0 ≤ time.amount ∧ time.IsShort := by
  rw [← forall_iff_byParts (fun _ _ => Offset.durationOfText_spec) read, IsTold]
  simp [Offset.recovers_iff, Offset.durationOfText_text]

/-- A plan that has been read counts days or something longer, and a requirement that has been read looks no
time back, exactly if that holds of the offset that its document gives by parts, where it gives one. The texts
that the offsets of a rule are written as are read again by their members exactly if those that its document
gives by parts are of this kind, and have not too many digits. -/
theorem Rule.isTold_iff_byParts (value : Value) :
    (∀ plan, DuePlan.reader value = .ok plan →
      ((∀ offset ∈ plan.offset, offset.unit ∈ Offset.calendarUnits) ↔
        ∀ offset ∈ DuePlan.byParts? value, offset.unit ∈ Offset.calendarUnits)) ∧
    (∀ requirement, Requirement.reader value = .ok requirement →
      ((∀ time ∈ requirement.time, 0 ≤ time.amount) ↔ ∀ time ∈ Requirement.byParts? value, 0 ≤ time.amount)) ∧
    ∀ rule, reader value = .ok rule →
      ((∀ plan ∈ rule.plans, plan.IsTold) ∧ (∀ requirement ∈ rule.requirements, requirement.IsTold) ↔
        (∀ given ∈ plansIn value, ∀ offset ∈ DuePlan.byParts? given,
          offset.unit ∈ Offset.calendarUnits ∧ offset.IsShort) ∧
        ∀ given ∈ leavesIn value, ∀ time ∈ Requirement.byParts? given, 0 ≤ time.amount ∧ time.IsShort) := by
  refine ⟨fun plan read => ?_, fun requirement read => ?_, fun rule read => ?_⟩
  · exact DuePlan.forall_iff_byParts (fun _ _ text => (Offset.ofText_spec text).1) read
  · exact Requirement.forall_iff_byParts (fun _ _ text => (Offset.durationOfText_spec text).1) read
  · have plans := Reader.forall_iff_given (forall₂_plansIn read) fun _ _ => DuePlan.isTold_iff
    have requirements := Reader.forall_iff_given (forall₂_leavesIn read) fun _ _ => Requirement.isTold_iff
    rw [plans, requirements]

/-- A plan in a document whose offset counts hours. -/
def hourly : Value :=
  .map [("type", .text "relative"), ("baseDate", .text "dates.optStartDate"),
    ("offset", .map [("amount", .int 2), ("unit", .text "hour")])]

/-- A leaf in a document whose time looks back. -/
def backward : Value :=
  .map [("field", .text "dates.optStartDate"), ("operator", .text "lessThan"),
    ("timeValue", .map [("amount", .int (-5)), ("unit", .text "day")])]

/-- A rule in a document with this plan and a group of this leaf. -/
def hourlyRule : Value :=
  .map [("id", .text "report"), ("name", .text "Report"), ("ruleGroup", .text "reporting"),
    ("phase", .text "opt_active"), ("visaTypes", .list [.text "F1"]),
    ("conditions", .list [.map [("nested", .list [backward])]]),
    ("taskTemplate", .map [("titleTemplate", .text "Report"), ("dueDateConfig", hourly)])]

/-- They are read, and what they are written as is not read again. -/
theorem Rule.isTold_iff_byParts_hourly : ∃ plan requirement rule,
    DuePlan.reader hourly = .ok plan ∧ ¬ (∀ offset ∈ plan.offset, offset.unit ∈ Offset.calendarUnits) ∧
    Requirement.reader backward = .ok requirement ∧ ¬ (∀ time ∈ requirement.time, 0 ≤ time.amount) ∧
    Rule.reader hourlyRule = .ok rule ∧
    ¬ ((∀ plan ∈ rule.plans, plan.IsTold) ∧ ∀ requirement ∈ rule.requirements, requirement.IsTold) := by
  obtain ⟨plan, planned⟩ := Option.isSome_iff_exists.mp
    (show (DuePlan.reader hourly).result?.isSome by decide +kernel)
  obtain ⟨requirement, required⟩ := Option.isSome_iff_exists.mp
    (show (Requirement.reader backward).result?.isSome by decide +kernel)
  obtain ⟨rule, read⟩ := Option.isSome_iff_exists.mp
    (show (Rule.reader hourlyRule).result?.isSome by decide +kernel)
  rw [Checked.result?_eq_some] at planned required read
  refine ⟨plan, requirement, rule, planned, ?_, required, ?_, read, ?_⟩
  · rw [(isTold_iff_byParts hourly).1 _ planned]
    decide +kernel
  · rw [(isTold_iff_byParts backward).2.1 _ required]
    decide +kernel
  · rw [(isTold_iff_byParts hourlyRule).2.2 _ read]
    have listed : hourly ∈ Rule.plansIn hourlyRule := List.mem_cons_self
    have hours : DuePlan.byParts? hourly = some ⟨2, .hour⟩ := by decide +kernel
    exact fun told => absurd (told.1 hourly listed _ hours).1 (by decide)

/-- The plan is read although it counts hours, and its own reader refuses the text that its offset is written
as. -/
theorem not_isTold_hourly : ∃ plan, DuePlan.reader hourly = .ok plan ∧ plan.offset = some ⟨2, .hour⟩ ∧
    TimeUnit.hour ∉ Offset.calendarUnits ∧
    (Reader.offset Offset.ofText false (Offset.written ⟨2, .hour⟩)).result? = none := by
  refine ⟨{ strategy := .relative, base := some "dates.optStartDate", offset := some ⟨2, .hour⟩ },
    ?_, rfl, ?_, ?_⟩
  · rfl
  · decide
  · decide +kernel

end Obligations
