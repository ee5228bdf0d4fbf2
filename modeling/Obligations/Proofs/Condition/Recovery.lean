import Obligations.Proofs.Condition.Form
import Obligations.Proofs.Offset.Reading

/-! # Recovering conditions

A condition is read again from a document exactly if the times of all its requirements are: as texts they have
neither a sign nor too many digits. All of it is recovered, but for the infinite numbers in its operands and what is
no number there, in the places of which the document has null.
-/

namespace Obligations

open Obligations.Number Obligations.Schema

theorem Comparison.ofCode?_code (comparison : Comparison) : ofCode? comparison.code = some comparison := by
  cases comparison <;> rfl

theorem Connective.ofCode?_code (connective : Connective) : ofCode? connective.code = some connective := by
  cases connective <;> rfl

namespace Requirement

/-- Whether the parts of a requirement are what the members of a record are read as. -/
structure IsReadFrom (requirement : Requirement) (members : List (String × Value)) : Prop where
  field : fieldKey.required Reader.nonEmptyText members = .ok requirement.field
  comparison : comparisonKey.required (Reader.code Comparison.ofCode?) members = .ok requirement.comparison
  operand : operandKey.withDefault .null Reader.anything members = .ok requirement.operand
  time : timeKey.optional (Reader.offset Offset.durationOfText true) members = .ok requirement.time
  connective : connectiveKey.optional (Reader.code Connective.ofCode?) members = .ok requirement.connective

variable {requirement : Requirement} {members : List (String × Value)}

theorem ofMembers_eq_ok : ofMembers members = .ok requirement ↔ requirement.IsReadFrom members := by
  rw [ofMembers]
  simp only [Checked.seq_eq_ok, Checked.map_eq_ok]
  constructor
  · rintro ⟨_, _, ⟨_, _, ⟨_, _, ⟨_, _, ⟨_, field, rfl⟩, comparison, rfl⟩, operand, rfl⟩, time, rfl⟩,
      connective, rfl⟩
    exact ⟨field, comparison, operand, time, connective⟩
  · intro read
    exact ⟨_, _, ⟨_, _, ⟨_, _, ⟨_, _, ⟨_, read.field, rfl⟩, read.comparison, rfl⟩, read.operand, rfl⟩,
      read.time, rfl⟩, read.connective, rfl⟩

/-- The members of a requirement in a document. -/
theorem plain_toValue (requirement : Requirement) : requirement.toValue.plain = .map [
    ("field", .text requirement.field),
    ("operator", .text requirement.comparison.code),
    ("value", requirement.operand.plain),
    ("timeValue", (Value.ofOption (.text ·.text) requirement.time).plain),
    ("logicOperator", (Value.ofOption (.text ·.code) requirement.connective).plain)] :=
  Value.plain_map _

variable {value : Value}

theorem exists_isReadFrom (read : reader value = .ok requirement) :
    ∃ members, value = .map members ∧ requirement.IsReadFrom members := by
  obtain ⟨members, rfl, -, read⟩ := Reader.closedRecord_eq_ok.mp read
  exact ⟨members, rfl, ofMembers_eq_ok.mp read⟩

/-- A requirement names a field. -/
theorem isEmpty_field (read : reader value = .ok requirement) : requirement.field.isEmpty = false := by
  obtain ⟨members, rfl, parts⟩ := exists_isReadFrom read
  obtain ⟨_, given, -, named⟩ := Key.required_eq_ok.mp parts.field
  exact Reader.isEmpty_of_nonEmptyText named

/-- The operand of a requirement is one that its document has held. -/
theorem isJson_operand (read : reader value = .ok requirement) (json : value.isJson = true) :
    requirement.operand.isJson = true := by
  obtain ⟨members, rfl, parts⟩ := exists_isReadFrom read
  rcases Key.withDefault_eq_ok.mp parts.operand with ⟨-, none⟩ | ⟨_, given, found, same⟩
  · rw [← none]
    rfl
  · cases same
    exact Key.isJson_of_find? json found

/-- Whether the text that the time of a requirement is written as is read as it again. -/
def IsTold (requirement : Requirement) : Prop :=
  ∀ time ∈ requirement.time, Reader.Recovers (Reader.offset Offset.durationOfText true) Offset.written time

/-- The requirement with its operand as it is in a document. -/
def plain (requirement : Requirement) : Requirement :=
  { requirement with operand := requirement.operand.plain }

theorem plain_eq_self_iff : requirement.plain = requirement ↔ requirement.operand.plain = requirement.operand := by
  obtain ⟨field, comparison, operand, time, connective⟩ := requirement
  simp [plain]

/-- A requirement is read again exactly if its time is. -/
theorem reader_plain_toValue_iff (read : reader value = .ok requirement) :
    reader requirement.toValue.plain = .ok requirement.plain ↔ requirement.IsTold := by
  rw [plain_toValue, reader, Reader.closedRecord]
  have known : ∀ field comparison operand time connective, unknownMembers keys [
      ("field", field), ("operator", comparison), ("value", operand), ("timeValue", time),
      ("logicOperator", connective)] = [] := by
    intro _ _ _ _ _
    rfl
  rw [known]
  dsimp only
  rw [ofMembers_eq_ok]
  have times : Reader.Recovers (Reader.optional (Reader.offset Offset.durationOfText true))
      (.ofOption Offset.written) requirement.time ↔ requirement.IsTold :=
    Reader.recovers_optional fun _ => by rintro ⟨⟩
  rw [← times]
  have named : requirement.field.isEmpty = false := isEmpty_field read
  constructor
  · intro read
    exact (Key.optional_of_lookup rfl).mp read.time
  · intro recovered
    refine ⟨?_, ?_, ?_, ?_, ?_⟩
    · exact (Key.required_of_lookup rfl).mpr (Reader.recovers_nonEmptyText named)
    · exact (Key.required_of_lookup rfl).mpr (Reader.recovers_code requirement.comparison.ofCode?_code)
    · exact (Key.withDefault_of_lookup rfl).mpr rfl
    · exact (Key.optional_of_lookup rfl).mpr recovered
    · refine (Key.optional_of_lookup rfl).mpr ((Reader.recovers_optional fun _ => by rintro ⟨⟩).mpr ?_)
      exact fun connective _ => Reader.recovers_code connective.ofCode?_code

end Requirement

namespace Condition

variable {value : Value} {condition : Condition}

theorem toValues_eq (conditions : List Condition) : toValues conditions = conditions.map toValue := by
  induction conditions with
  | nil => rfl
  | cons condition rest ih => rw [toValues, List.map_cons, ih]

/-- The members of a group in a document. -/
theorem plain_toValue_group (members : List Condition) (connective : Connective) (negated : Bool) :
    (group members connective negated).toValue.plain = .map [
      ("nested", .list (members.map fun member => member.toValue.plain)),
      ("logicOperator", .text connective.code),
      ("negate", .bool negated)] := by
  have inside := Value.plain_list (members.map toValue)
  rw [List.map_map] at inside
  rw [toValue, toValues_eq, Value.plain_map]
  show Value.map [("nested", (Value.list (members.map toValue)).plain), _, _] = _
  rw [inside]
  rfl

mutual

/-- The condition with all operands in it as they are in a document. -/
def plain : Condition → Condition
  | .leaf requirement => .leaf requirement.plain
  | .group members connective negated => .group (plainAll members) connective negated

/-- Conditions with all operands in them as they are in a document. -/
def plainAll : List Condition → List Condition
  | [] => []
  | condition :: rest => condition.plain :: plainAll rest

end

theorem plainAll_eq (conditions : List Condition) : plainAll conditions = conditions.map plain := by
  induction conditions with
  | nil => rfl
  | cons condition rest ih => rw [plainAll, List.map_cons, ih]

/-- A group is read again exactly if all of its members are. -/
theorem reader_plain_toValue_group {members : List Condition} {connective : Connective} {negated : Bool}
    (solid : members ≠ []) :
    reader (group members connective negated).toValue.plain = .ok (group members connective negated).plain ↔
      ∀ member ∈ members, reader member.toValue.plain = .ok member.plain := by
  have inside : List.Forall₂ (fun value condition => reader value = .ok condition)
      (members.map fun member => member.toValue.plain) (plainAll members) ↔
        ∀ member ∈ members, reader member.toValue.plain = .ok member.plain := by
    rw [plainAll_eq, List.forall₂_map_left_iff, List.forall₂_map_right_iff, List.forall₂_same]
  rw [plain_toValue_group, plain, reader_eq_group, ← inside]
  constructor
  · rintro ⟨_, items, same, nested, -, read, -⟩
    cases same
    cases nested
    exact read
  · intro read
    refine ⟨_, _, rfl, rfl, by simpa using solid, read, ?_, rfl, rfl⟩
    exact (Key.withDefault_of_lookup rfl).mpr (Reader.recovers_code connective.ofCode?_code)

theorem forall_requirementsOf {conditions : List Condition} {P : Condition → Prop} {Q : Requirement → Prop}
    (each : ∀ condition ∈ conditions, (P condition ↔ ∀ requirement ∈ condition.requirements, Q requirement)) :
    (∀ condition ∈ conditions, P condition) ↔ ∀ requirement ∈ requirementsOf conditions, Q requirement := by
  rw [requirementsOf_eq]
  constructor
  · intro all requirement listed
    obtain ⟨condition, own, inside⟩ := List.mem_flatMap.mp listed
    exact (each condition own).mp (all condition own) requirement inside
  · intro all condition own
    exact (each condition own).mpr fun requirement inside =>
      all requirement (List.mem_flatMap.mpr ⟨condition, own, inside⟩)

/-- A condition of any depth is read again exactly if the times of its requirements are. -/
theorem reader_plain_toValue_iff (read : reader value = .ok condition) :
    reader condition.toValue.plain = .ok condition.plain ↔
      ∀ requirement ∈ condition.requirements, requirement.IsTold := by
  induction condition using induction generalizing value with
  | leaf requirement =>
    rw [requirements, List.forall_mem_singleton, ← Requirement.reader_plain_toValue_iff (reader_eq_leaf.mp read).2]
    exact reader_eq_leaf.trans (and_iff_right rfl)
  | group members connective negated ih =>
    obtain ⟨given, items, rfl, nested, solid, inside, -⟩ := reader_eq_group.mp read
    have some : members ≠ [] := by
      rintro rfl
      cases inside
      exact solid rfl
    rw [reader_plain_toValue_group some, requirements]
    refine forall_requirementsOf fun member own => ?_
    obtain ⟨item, -, read⟩ := Reader.exists_given inside own
    exact ih member own read

/-- Conditions of any depth are read again exactly if the times of their requirements are. -/
theorem listReader_plain_iff {conditions : List Condition} (read : listReader value = .ok conditions) :
    listReader (Value.list (toValues conditions)).plain = .ok (conditions.map plain) ↔
      ∀ requirement ∈ requirementsOf conditions, requirement.IsTold := by
  obtain ⟨items, rfl, inside⟩ := listReader_eq_ok.mp read
  rw [toValues_eq, listReader_eq_listOf, Reader.listOf_plain_list]
  refine forall_requirementsOf fun condition own => ?_
  obtain ⟨item, -, read⟩ := Reader.exists_given inside own
  exact reader_plain_toValue_iff read

theorem map_plain_eq_self_iff {conditions : List Condition} :
    conditions.map plain = conditions ↔ ∀ condition ∈ conditions, condition.plain = condition := by
  have same := List.map_inj_left (l := conditions) (f := plain) (g := id)
  rwa [List.map_id] at same

/-- A condition of any depth stays the same in a document exactly if all requirements in it do. -/
theorem plain_eq_self_iff : condition.plain = condition ↔
    ∀ requirement ∈ condition.requirements, requirement.plain = requirement := by
  induction condition using induction with
  | leaf requirement => rw [plain, leaf.injEq, requirements, List.forall_mem_singleton]
  | group members connective negated ih =>
    rw [plain, group.injEq, and_iff_left ⟨rfl, rfl⟩, plainAll_eq, map_plain_eq_self_iff, requirements]
    exact forall_requirementsOf ih

end Condition

end Obligations
