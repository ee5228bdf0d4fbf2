import Obligations.Document.Json
import Obligations.Proofs.Rule.Offsets

/-! # From a document and back

A rule that has been read from a document whose offsets are all texts is written into a document that a rule is read
from again. This is the same rule as long as no operand has an infinite number in it, or what is no number: a document
has null for these.
-/

namespace Obligations

open Obligations.Schema

namespace Value

def isText : Value → Bool
  | .text _ => true
  | _ => false

theorem byParts?_of_isText {value : Value} (text : value.isText = true) : Offset.byParts? value = none := by
  cases value with
  | map => cases text
  | _ => rfl

end Value

namespace Condition

/-- The leaves of a condition in a document are in the document. -/
theorem isJson_of_mem_leaves {value leaf : Value} (json : value.isJson = true) (listed : leaf ∈ leaves value) :
    leaf.isJson = true := by
  match value with
  | .map members =>
    rw [leaves] at listed
    split at listed
    next items found =>
      rw [leavesOf_eq] at listed
      obtain ⟨item, inside, own⟩ := List.mem_flatMap.mp listed
      have smaller := List.sizeOf_lt_of_mem inside
      have within : 1 + sizeOf items < sizeOf members := by simpa using Value.sizeOf_lt_of_lookup found
      exact isJson_of_mem_leaves (Value.isJson_list.mp (Value.isJson_of_lookup json found) item inside) own
    next => exact List.mem_singleton.mp listed ▸ json
  | .null | .bool _ | .int _ | .float _ | .text _ | .date _ | .stamp _ | .visa _ | .phase _ | .list _ =>
    rw [leaves_of_none rfl] at listed
    exact List.mem_singleton.mp listed ▸ json
termination_by sizeOf value
decreasing_by
  rw [Value.map.sizeOf_spec]
  omega

theorem isJson_of_mem_leavesAt {key : Key} {value leaf : Value} (json : value.isJson = true)
    (listed : leaf ∈ leavesAt key value) : leaf.isJson = true := by
  rw [leavesAt] at listed
  split at listed
  next items given =>
    rw [leavesOf_eq] at listed
    obtain ⟨item, inside, own⟩ := List.mem_flatMap.mp listed
    exact isJson_of_mem_leaves (Value.isJson_list.mp (Key.isJson_of_given? json given) item inside) own
  next => cases listed

end Condition

namespace Requirement

variable {value : Value} {requirement : Requirement}

/-- The operand of a requirement is what its document gives, or null. -/
theorem operand_eq (read : reader value = .ok requirement) :
    requirement.operand = (operandKey.given? value).getD .null := by
  obtain ⟨members, rfl, parts⟩ := exists_isReadFrom read
  rw [Key.given?]
  rcases Key.withDefault_eq_ok.mp parts.operand with ⟨absent, none⟩ | ⟨_, given, found, same⟩
  · rw [absent, ← none]
    rfl
  · cases same
    rw [found, Option.map_some]
    cases requirement.operand <;> rfl

/-- A requirement stays the same in a document exactly if all numbers in the operand that it is read with are finite
ones. -/
theorem plain_eq_self_iff_isFinite (read : reader value = .ok requirement) (json : value.isJson = true) :
    requirement.plain = requirement ↔ ∀ given, operandKey.given? value = some given → given.isFinite = true := by
  rw [plain_eq_self_iff, Value.plain_eq_self_iff (isJson_operand read json), operand_eq read]
  cases operandKey.given? value with
  | none => simp [Value.isFinite]
  | some given => simp

end Requirement

namespace Rule

variable {value : Value} {rule : Rule}

/-- All offsets in the document of a rule: of its plans and, as times, of the leaves of its conditions. -/
def offsetsIn (value : Value) : List Value :=
  (plansIn value).filterMap (Key.plain "offset").given? ++ (leavesIn value).filterMap Requirement.timeKey.given?

/-- All operands in the document of a rule: those of the leaves of its conditions. -/
def operandsIn (value : Value) : List Value :=
  (leavesIn value).filterMap Requirement.operandKey.given?

theorem isJson_of_mem_leavesIn (json : value.isJson = true) {leaf : Value} (listed : leaf ∈ leavesIn value) :
    leaf.isJson = true := by
  rcases List.mem_append.mp listed with own | later
  · exact Condition.isJson_of_mem_leavesAt json own
  · obtain ⟨template, there, own⟩ := List.mem_flatMap.mp later
    exact Condition.isJson_of_mem_leavesAt (Key.isJson_of_given? json (Option.mem_toList.mp there)) own

/-- Offsets that are given as texts are told in texts that are read as them again. -/
theorem isTold_of_texts (texts : ∀ given ∈ offsetsIn value, given.isText = true) (read : reader value = .ok rule) :
    (∀ plan ∈ rule.plans, plan.IsTold) ∧ ∀ requirement ∈ rule.requirements, requirement.IsTold := by
  have plans := Reader.forall_iff_given (forall₂_plansIn read) fun _ _ => DuePlan.isTold_iff
  have requirements := Reader.forall_iff_given (forall₂_leavesIn read) fun _ _ => Requirement.isTold_iff
  have unparted {given : Value} {offset : Offset} (listed : given ∈ offsetsIn value) :
      Offset.byParts? given ≠ some offset := by
    rw [Value.byParts?_of_isText (texts given listed)]
    exact nofun
  rw [plans, requirements]
  constructor
  · intro plan listed offset parts
    obtain ⟨given, there, own⟩ := Option.bind_eq_some_iff.mp parts
    exact absurd own (unparted (List.mem_append_left _ (List.mem_filterMap.mpr ⟨plan, listed, there⟩)))
  · intro leaf listed time parts
    obtain ⟨given, there, own⟩ := Option.bind_eq_some_iff.mp parts
    exact absurd own (unparted (List.mem_append_right _ (List.mem_filterMap.mpr ⟨leaf, listed, there⟩)))

/-- A rule stays the same in a document exactly if all numbers in the operands that it is read with are finite ones. -/
theorem plain_eq_self_iff_isFinite (json : value.isJson = true) (read : reader value = .ok rule) :
    rule.plain = rule ↔ ∀ operand ∈ operandsIn value, operand.isFinite = true := by
  have leaves : List.Forall₂ (fun leaf requirement => leaf.isJson = true ∧ Requirement.reader leaf = .ok requirement)
      (leavesIn value) rule.requirements :=
    (List.forall₂_and_left _ _).mpr ⟨fun _ => isJson_of_mem_leavesIn json, forall₂_leavesIn read⟩
  rw [plain_eq_self_iff, Reader.forall_iff_given leaves fun leaf requirement held =>
    Requirement.plain_eq_self_iff_isFinite held.2 held.1]
  constructor
  · intro all operand listed
    obtain ⟨leaf, own, given⟩ := List.mem_filterMap.mp listed
    exact all leaf own operand given
  · intro all leaf own operand given
    exact all operand (List.mem_filterMap.mpr ⟨leaf, own, given⟩)

/-- A rule of a document in which every offset is a text or null is read again from what it is written as: with
its conditions of any depth, its plans, its reminders, what universities change, its times and its tags. It is the same
rule exactly if no operand has an infinite number in it, or what is no number; in the places of these the rule that is
read again has null. -/
theorem reader_plain_toValue (json : value.isJson = true)
    (texts : ∀ given ∈ offsetsIn value, given.isText = true) (read : reader value = .ok rule) :
    reader rule.toValue.plain = .ok rule.plain ∧
      (rule.plain = rule ↔ ∀ operand ∈ operandsIn value, operand.isFinite = true) :=
  ⟨(reader_plain_toValue_iff read json).mpr (isTold_of_texts texts read), plain_eq_self_iff_isFinite json read⟩

/-- A rule in a document, with a group, a duration, offsets and a time of its own. -/
def visitRule : Value :=
  .map [("id", .text "visit"), ("name", .text "Visit"), ("rule_group", .text "reporting"),
    ("phase", .text "opt_active"), ("visaTypes", .list [.text "F1"]), ("priority", .text "70"),
    ("conditions", .list [.map [
      ("nested", .list [
        .map [("field", .text "dates.optStartDate"), ("operator", .text "lessThan"),
          ("timeValue", .text "030DAYS")],
        .map [("nested", .list [.map [("field", .text "userId"), ("operator", .text "in"),
          ("value", .list [.text "s1", .null])]])]]),
      ("logicOperator", .text "OR"), ("negate", .text "yes")]]),
    ("taskTemplate", .map [("titleTemplate", .text "Visit"),
      ("dueDateConfig", .map [("type", .text "relative"), ("offset", .text " -2weeks "),
        ("minDate", .text "2024-01-01")]),
      ("universityOverrides", .map [("u1", .map [
        ("dueDateConfig", .map [("type", .text "fixed"), ("offset", .null)]),
        ("reminderSchedule", .map [("intervals", .list [.int 7])])])])]),
    ("createdAt", .text "2024-01-01T09:00:00.25-05:30"), ("tags", .list [.text "office"])]

theorem reader_plain_toValue_visit : ∃ rule, reader visitRule = .ok rule ∧
    rule.plans.map (·.offset) = [some ⟨-2, .week⟩, none] ∧
    rule.requirements.map (·.time) = [some ⟨30, .day⟩, none] ∧
    reader rule.toValue.plain = .ok rule := by
  have checked : (reader visitRule).result?.map
      (fun rule => (rule.plans.map (·.offset), rule.requirements.map (·.time))) =
      some ([some ⟨-2, .week⟩, none], [some ⟨30, .day⟩, none]) := by
    decide +kernel
  obtain ⟨rule, read, told⟩ := Option.map_eq_some_iff.mp checked
  rw [Checked.result?_eq_some] at read
  obtain ⟨plans, times⟩ := Prod.mk.inj told
  obtain ⟨again, same⟩ := reader_plain_toValue (by decide +kernel) (by decide +kernel) read
  rw [same.mpr (by decide +kernel)] at again
  exact ⟨rule, read, plans, times, again⟩

/-- A number beyond all floats. -/
def beyond : Value :=
  .float (.ofDecimal false 1 999)

/-- A leaf in a document that compares with this number. -/
def boundless : Value :=
  .map [("field", .text "academic.gpa"), ("operator", .text "lessThan"), ("value", beyond)]

/-- A rule in a document with this leaf. -/
def boundlessRule : Value :=
  .map [("id", .text "report"), ("name", .text "Report"), ("ruleGroup", .text "reporting"),
    ("phase", .text "opt_active"), ("visaTypes", .list [.text "F1"]), ("conditions", .list [boundless]),
    ("taskTemplate", .map [("titleTemplate", .text "Report")])]

/-- A document in JSON can have the number. The rule is read and has no offsets, and what it is written as is read as
another rule. -/
theorem reader_plain_toValue_boundless :
    Document.Json.read "1e999" = .ok beyond ∧ boundlessRule.isJson = true ∧ offsetsIn boundlessRule = [] ∧
      ∃ rule, reader boundlessRule = .ok rule ∧ reader rule.toValue.plain ≠ .ok rule := by
  have checked : (reader boundlessRule).result?.any (fun rule =>
      rule.requirements.map (·.operand.isNull) == [false] && (reader rule.toValue.plain).result?.any fun again =>
        again.requirements.map (·.operand.isNull) == [true]) = true := by
    decide +kernel
  obtain ⟨rule, read, checked⟩ := (Option.any_eq_true _ _).mp checked
  obtain ⟨given, checked⟩ := (Bool.and_eq_true _ _).mp checked
  obtain ⟨again, readAgain, lost⟩ := (Option.any_eq_true _ _).mp checked
  rw [Checked.result?_eq_some] at read readAgain
  refine ⟨by rfl, by decide +kernel, by decide +kernel, rule, read, fun same => ?_⟩
  obtain rfl := Checked.ok.inj (readAgain.symm.trans same)
  rw [eq_of_beq given] at lost
  cases lost

end Rule

end Obligations
