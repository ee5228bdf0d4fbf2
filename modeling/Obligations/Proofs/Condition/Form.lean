import Obligations.Condition.Form
import Obligations.Proofs.Schema.Recovery

/-! # How conditions are read

A condition that has been read is a requirement, or a group of conditions that have been read one by one. The
requirements of a condition of any depth are what its leaves have been read as, in their order.
-/

namespace Obligations

open Obligations.Schema

namespace Condition

/-- What holds of all requirements, and of a group where it holds of its members, holds of all conditions. -/
theorem induction {P : Condition → Prop} (leaf : ∀ requirement, P (.leaf requirement))
    (group : ∀ members connective negated, (∀ member ∈ members, P member) →
      P (.group members connective negated))
    (condition : Condition) : P condition := by
  match condition with
  | .leaf requirement => exact leaf requirement
  | .group members connective negated =>
    refine group members connective negated fun member listed => ?_
    have smaller : sizeOf member < sizeOf members := List.sizeOf_lt_of_mem listed
    exact induction leaf group member
termination_by sizeOf condition
decreasing_by
  simp
  omega

variable {value : Value} {members : List (String × Value)} {items : List Value}
  {condition : Condition} {conditions : List Condition} {requirement : Requirement}
  {connective : Connective} {negated : Bool}

/-- The conditions of a list are read one by one. -/
theorem readAll_eq_items (index : Nat) (items : List Value) :
    readAll index items = Reader.items reader index items := by
  induction items generalizing index with
  | nil => rw [readAll, Reader.items]
  | cons value rest ih => rw [readAll, Reader.items, ih]

theorem readAll_eq_ok {index : Nat} : readAll index items = .ok conditions ↔
    List.Forall₂ (fun value condition => reader value = .ok condition) items conditions := by
  rw [readAll_eq_items, Reader.items_eq_ok]

/-- The conditions of a group, where a value has any. -/
def nested? : Value → Option Value
  | .map members => members.lookup "nested"
  | _ => none

def nestedReader : Reader (List Condition)
  | .list items => if items.isEmpty then .refuse .tooFew else readAll 0 items
  | _ => .refuse .notList

theorem nestedReader_eq_ok : nestedReader value = .ok conditions ↔ ∃ items, value = .list items ∧ items ≠ [] ∧
    List.Forall₂ (fun value condition => reader value = .ok condition) items conditions := by
  cases value with
  | list items =>
    cases items with
    | nil => simp [nestedReader, Checked.refuse]
    | cons => simp [nestedReader, readAll_eq_ok]
  | _ => simp [nestedReader, Checked.refuse]

theorem groupOf_eq_ok {nested : Checked (List Condition)} : groupOf nested members = .ok condition ↔
    ∃ conditions connective negated, nested = .ok conditions ∧
      connectiveKey.withDefault .all (Reader.code Connective.ofCode?) members = .ok connective ∧
      negatedKey.withDefault false Reader.bool members = .ok negated ∧
      unknownMembers groupKeys members = [] ∧ .group conditions connective negated = condition := by
  rw [groupOf]
  split
  next none =>
    simp only [Checked.seq_eq_ok, Checked.map_eq_ok]
    constructor
    · rintro ⟨_, negated, ⟨_, connective, ⟨conditions, read, rfl⟩, joined, rfl⟩, turned, rfl⟩
      exact ⟨conditions, connective, negated, read, joined, turned, none, rfl⟩
    · rintro ⟨conditions, connective, negated, read, joined, turned, -, rfl⟩
      exact ⟨_, negated, ⟨_, connective, ⟨conditions, read, rfl⟩, joined, rfl⟩, turned, rfl⟩
  next some =>
    constructor
    · intro read
      obtain ⟨_, _, _, refused, _⟩ := Checked.both_eq_ok.mp read
      cases refused
    · rintro ⟨_, _, _, _, _, _, none, _⟩
      exact (some none).elim

theorem reader_of_none (none : nested? value = none) :
    reader value = ((Requirement.reader value).map .leaf).under (.form "leaf") := by
  cases value with
  | map members =>
    have absent : members.lookup "nested" = Option.none := none
    rw [reader]
    split
    next found => simp [absent] at found
    next found => simp [absent] at found
    next => rfl
  | _ => rw [reader]; rintro _ ⟨⟩

theorem reader_of_some (some : members.lookup "nested" = some value) :
    reader (.map members) =
      (groupOf ((nestedReader value).under (.member "nested")) members).under (.form "group") := by
  rw [reader]
  split
  next items found =>
    cases some.symm.trans found
    rfl
  next other apart found =>
    cases some.symm.trans found
    cases value with
    | list items => exact absurd rfl (apart items)
    | _ => rfl
  next found => simp [found] at some

theorem eq_map_of_nested? {inner : Value} (some : nested? value = some inner) :
    ∃ members, value = .map members ∧ members.lookup "nested" = .some inner := by
  cases value with
  | map members => exact ⟨members, rfl, some⟩
  | _ => cases some

/-- A requirement has been read from a value without conditions inside. -/
theorem reader_eq_leaf : reader value = .ok (.leaf requirement) ↔
    nested? value = none ∧ Requirement.reader value = .ok requirement := by
  cases found : nested? value with
  | none =>
    rw [reader_of_none found, Checked.under_eq_ok]
    show Condition.leaf <$> Requirement.reader value = _ ↔ _
    rw [Checked.map_eq_ok]
    simp
  | some inner =>
    obtain ⟨members, rfl, some⟩ := eq_map_of_nested? found
    rw [reader_of_some some, Checked.under_eq_ok, groupOf_eq_ok]
    simp

/-- A group has been read from a record with at least one condition inside. -/
theorem reader_eq_group : reader value = .ok (.group conditions connective negated) ↔
    ∃ members items, value = .map members ∧ members.lookup "nested" = some (.list items) ∧ items ≠ [] ∧
      List.Forall₂ (fun value condition => reader value = .ok condition) items conditions ∧
      connectiveKey.withDefault .all (Reader.code Connective.ofCode?) members = .ok connective ∧
      negatedKey.withDefault false Reader.bool members = .ok negated ∧
      unknownMembers groupKeys members = [] := by
  constructor
  · intro read
    cases found : nested? value with
    | none =>
      rw [reader_of_none found, Checked.under_eq_ok] at read
      obtain ⟨_, _, other⟩ := Checked.map_eq_ok.mp read
      cases other
    | some inner =>
      obtain ⟨members, rfl, some⟩ := eq_map_of_nested? found
      rw [reader_of_some some, Checked.under_eq_ok, groupOf_eq_ok] at read
      obtain ⟨_, _, _, inside, joined, turned, known, same⟩ := read
      cases same
      obtain ⟨items, rfl, solid, read⟩ := nestedReader_eq_ok.mp (Checked.under_eq_ok.mp inside)
      exact ⟨members, items, rfl, some, solid, read, joined, turned, known⟩
  · rintro ⟨members, items, rfl, some, solid, read, joined, turned, known⟩
    rw [reader_of_some some, Checked.under_eq_ok, groupOf_eq_ok]
    have inside := nestedReader_eq_ok.mpr ⟨items, rfl, solid, read⟩
    exact ⟨_, _, _, Checked.under_eq_ok.mpr inside, joined, turned, known, rfl⟩

mutual

/-- The requirements of a condition, in their order. -/
def requirements : Condition → List Requirement
  | .leaf requirement => [requirement]
  | .group members _ _ => requirementsOf members

/-- The requirements of conditions, in their order. -/
def requirementsOf : List Condition → List Requirement
  | [] => []
  | condition :: rest => condition.requirements ++ requirementsOf rest

end

mutual

/-- The leaves of a condition in a document, in their order. -/
def leaves (value : Value) : List Value :=
  match value with
  | .map members =>
    match found : members.lookup "nested" with
    | some (.list items) =>
      have _smaller := Value.sizeOf_lt_of_lookup found
      leavesOf items
    | _ => [value]
  | _ => [value]
termination_by sizeOf value
decreasing_by
  simp_all
  omega

/-- The leaves of conditions in a document, in their order. -/
def leavesOf (values : List Value) : List Value :=
  match values with
  | [] => []
  | value :: rest => leaves value ++ leavesOf rest
termination_by sizeOf values

end

theorem requirementsOf_eq : requirementsOf conditions = conditions.flatMap requirements := by
  induction conditions with
  | nil => rfl
  | cons condition rest ih => rw [requirementsOf, List.flatMap_cons, ih]

theorem leavesOf_eq : leavesOf items = items.flatMap leaves := by
  induction items with
  | nil => rw [leavesOf, List.flatMap_nil]
  | cons value rest ih => rw [leavesOf, List.flatMap_cons, ih]

theorem leaves_of_none (none : nested? value = none) : leaves value = [value] := by
  cases value with
  | map members =>
    have absent : members.lookup "nested" = Option.none := none
    rw [leaves]
    split
    next found => simp [absent] at found
    next => rfl
  | _ => rw [leaves]; rintro _ ⟨⟩

theorem leaves_of_some (some : members.lookup "nested" = some (.list items)) :
    leaves (.map members) = leavesOf items := by
  rw [leaves]
  split
  next found =>
    cases some.symm.trans found
    rfl
  next apart => exact absurd some (apart items)

/-- The requirements of a condition are what its leaves have been read as. -/
theorem forall₂_leaves (read : reader value = .ok condition) :
    List.Forall₂ (fun leaf requirement => Requirement.reader leaf = .ok requirement) (leaves value)
      condition.requirements := by
  induction condition using induction generalizing value with
  | leaf requirement =>
    obtain ⟨none, read⟩ := reader_eq_leaf.mp read
    rw [leaves_of_none none, requirements]
    exact .cons read .nil
  | group conditions connective negated ih =>
    obtain ⟨members, items, rfl, some, -, inside, -⟩ := reader_eq_group.mp read
    rw [leaves_of_some some, leavesOf_eq, requirements, requirementsOf_eq]
    clear read some
    -- one condition of the group after the other, each with the law for its own leaves
    induction inside with
    | nil => exact .nil
    | cons first _ more =>
      rw [List.forall_mem_cons] at ih
      exact List.rel_append (ih.1 first) (more ih.2)

theorem listReader_eq_listOf : listReader = Reader.listOf reader := by
  funext value
  cases value with
  | list items => exact readAll_eq_items 0 items
  | _ => rfl

theorem listReader_eq_ok : listReader value = .ok conditions ↔ ∃ items, value = .list items ∧
    List.Forall₂ (fun value condition => reader value = .ok condition) items conditions := by
  cases value with
  | list items => simp [listReader, readAll_eq_ok]
  | _ => simp [listReader, Checked.refuse]

/-- The requirements of conditions are what their leaves have been read as. -/
theorem forall₂_leavesOf
    (read : List.Forall₂ (fun value condition => reader value = .ok condition) items conditions) :
    List.Forall₂ (fun leaf requirement => Requirement.reader leaf = .ok requirement) (leavesOf items)
      (requirementsOf conditions) := by
  rw [leavesOf_eq, requirementsOf_eq]
  exact List.rel_flatMap read fun _ _ => forall₂_leaves

end Condition

end Obligations
