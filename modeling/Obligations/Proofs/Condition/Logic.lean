import Obligations.Condition.Evaluation
import Obligations.Proofs.Condition.Form

/-! # The logic of conditions

Every condition has a finding, of its own shape, whatever record it is held against: what cannot be compared counts as
not met and stops nothing beside it. So conditions follow the laws of the connectives that join them. The order does
not matter, a group inside a group with the same connective may be opened, and the negation of a group is the group of
the negations with the other connective.
-/

namespace Obligations

open Obligations.Calendar

namespace Connective

/-- Whether outcomes come to true where they are joined. -/
def Joins : Connective → List Bool → Prop
  | .all, outcomes => ∀ outcome ∈ outcomes, outcome = true
  | .any, outcomes => ∃ outcome ∈ outcomes, outcome = true

/-- The connective that joins the negations where another one is negated. -/
def dual : Connective → Connective
  | .all => .any
  | .any => .all

variable {connective : Connective} {outcomes : List Bool}

/-- Outcomes that are joined by themselves may be joined with those around them right away. -/
theorem joins_splice (front back : List Bool) {inner : List Bool} {outcome : Bool}
    (own : outcome = true ↔ connective.Joins inner) :
    connective.Joins (front ++ outcome :: back) ↔ connective.Joins (front ++ inner ++ back) := by
  cases connective with
  | all =>
    simp only [Joins, List.forall_mem_append, List.forall_mem_cons, and_assoc] at own ⊢
    rw [own]
  | any =>
    simp only [Joins, List.mem_append, List.mem_cons, or_and_right, exists_or, exists_eq_left, or_assoc] at own ⊢
    rw [own]

theorem joins_dual_not : connective.dual.Joins (outcomes.map (!·)) ↔ ¬ connective.Joins outcomes := by
  cases connective <;> simp [dual, Joins]

end Connective

namespace Requirement

variable {requirement : Requirement} {now : Timestamp} {actual : Value}

/-- Where no time is asked for, a value that is there is compared with the operand. -/
theorem holds_of_untimed (untimed : requirement.time = none)
    (compares : requirement.comparison ≠ .exists ∧ requirement.comparison ≠ .notExists) :
    requirement.holds now actual =
      if actual.isNull then .ok false else requirement.comparison.holds requirement.field actual requirement.operand := by
  unfold holds
  split
  next compared => exact absurd compared compares.1
  next compared => exact absurd compared compares.2
  next => rw [untimed]

/-- What a requirement comes to, in words, once it has been compared. -/
theorem outcome_of_holds {passed : Bool} (held : requirement.holds now actual = .ok passed) :
    requirement.outcome now actual =
      if passed then .ok (true, "Condition met")
      else (Outcome.ofPrinted (requirement.unmetText? actual)).map fun words => (false, words) := by
  cases passed with
  | true =>
    rw [outcome, held]
    rfl
  | false =>
    rw [outcome, held]
    cases printed : requirement.unmetText? actual <;> rfl

theorem outcome_of_failed {problem : Problem} (failed : requirement.holds now actual = .error problem) :
    requirement.outcome now actual = .error problem := by
  rw [outcome, failed]
  rfl

/-- The words never differ from the outcome of the comparison that they are for. -/
theorem holds_of_outcome {told : Bool × String} (ended : requirement.outcome now actual = .ok told) :
    requirement.holds now actual = .ok told.1 := by
  cases held : requirement.holds now actual with
  | error problem =>
    rw [outcome_of_failed held] at ended
    cases ended
  | ok passed =>
    rw [outcome_of_holds held] at ended
    cases passed with
    | true =>
      cases ended
      rfl
    | false =>
      cases printed : requirement.unmetText? actual <;> rw [printed] at ended <;> cases ended
      rfl

end Requirement

namespace Finding

/-- Whether outcomes come to true where they are joined, and negated if asked. -/
def Meets (connective : Connective) (negated : Bool) (outcomes : List Bool) : Prop :=
  if negated then ¬ connective.Joins outcomes else connective.Joins outcomes

theorem groupHolds_iff {connective : Connective} {negated : Bool} {outcomes : List Bool} :
    groupHolds connective negated outcomes = true ↔ Meets connective negated outcomes := by
  cases connective <;> cases negated <;> simp [groupHolds, Meets, Connective.Joins]

/-- How a finding tells of a condition, at a moment, against the record of a subject. A requirement has the outcome
of its comparison, or is not met if this fails, or if there are no words for it; a group has a finding for each of its
conditions and the outcome that theirs come to. -/
inductive IsOn (now : Timestamp) (record : Value) : Condition → Finding → Prop
  | judged {requirement : Requirement} {finding : Finding} (about : finding.condition = .leaf requirement)
      (single : finding.nested = [])
      (outcome : requirement.holds now (record.atPath requirement.field) = .ok finding.passed) :
      IsOn now record (.leaf requirement) finding
  | stopped {requirement : Requirement} {finding : Finding} {problem : Problem}
      (about : finding.condition = .leaf requirement) (single : finding.nested = [])
      (failed : requirement.outcome now (record.atPath requirement.field) = .error problem)
      (outcome : finding.passed = false) (told : finding.reason = "Evaluation error: " ++ problem.message) :
      IsOn now record (.leaf requirement) finding
  | joined {members : List Condition} {connective : Connective} {negated : Bool} {finding : Finding}
      (about : finding.condition = .group members connective negated)
      (each : List.Forall₂ (IsOn now record) members finding.nested)
      (outcome : finding.passed = true ↔ Meets connective negated (finding.nested.map (·.passed))) :
      IsOn now record (.group members connective negated) finding

theorem isOn_ofRequirement (requirement : Requirement) (now : Timestamp) (record : Value) :
    IsOn now record (.leaf requirement) (ofRequirement requirement now record) := by
  rw [ofRequirement]
  cases ended : requirement.outcome now (record.atPath requirement.field) with
  | ok told => exact .judged rfl rfl (Requirement.holds_of_outcome ended)
  | error problem => exact .stopped rfl rfl ended rfl rfl

end Finding

namespace Condition

variable (now : Timestamp) (record : Value)

theorem evaluateAll_eq_map (conditions : List Condition) :
    evaluateAll now record conditions = conditions.map (·.evaluate now record) := by
  induction conditions with
  | nil => rw [evaluateAll, List.map_nil]
  | cons condition rest ih => rw [evaluateAll, ih, List.map_cons]

def passes (condition : Condition) : Bool :=
  (condition.evaluate now record).passed

variable {now record} in
/-- A requirement is met where its comparison says so, whether there are words for it or not. -/
theorem passes_leaf_iff {requirement : Requirement} : passes now record (.leaf requirement) = true ↔
    requirement.holds now (record.atPath requirement.field) = .ok true := by
  rw [passes, evaluate, Finding.ofRequirement]
  cases ended : requirement.outcome now (record.atPath requirement.field) with
  | ok told => rw [Requirement.holds_of_outcome ended, Except.ok.injEq]
  | error problem =>
    refine iff_of_false Bool.false_ne_true fun held => ?_
    rw [Requirement.outcome_of_holds held] at ended
    cases ended

theorem map_passed_evaluateAll (conditions : List Condition) :
    (evaluateAll now record conditions).map (·.passed) = conditions.map (passes now record) := by
  rw [evaluateAll_eq_map, List.map_map]
  rfl

theorem passes_group_iff {members : List Condition} {connective : Connective} {negated : Bool} :
    passes now record (.group members connective negated) = true ↔
      Finding.Meets connective negated (members.map (passes now record)) := by
  rw [passes, evaluate, ← Finding.groupHolds_iff, ← map_passed_evaluateAll]
  rfl

variable {now record} in
theorem allHold_iff {conditions : List Condition} : allHold now record conditions = true ↔
    ∀ condition ∈ conditions, (condition.evaluate now record).passed = true := by
  rw [allHold, evaluateAll_eq_map, List.all_map, List.all_eq_true]
  rfl

theorem isOn_evaluate (condition : Condition) : Finding.IsOn now record condition (condition.evaluate now record) := by
  induction condition using induction with
  | leaf requirement =>
    rw [evaluate]
    exact Finding.isOn_ofRequirement requirement now record
  | group members connective negated each =>
    rw [evaluate]
    refine .joined rfl ?_ Finding.groupHolds_iff
    show List.Forall₂ _ members (evaluateAll now record members)
    rw [evaluateAll_eq_map, List.forall₂_map_right_iff, List.forall₂_same]
    exact each

/-- Whether one condition is another in which a group that is not negated has been opened into the group around it,
which has the same connective. -/
inductive Splices : Condition → Condition → Prop
  | here (front inner back : List Condition) (connective : Connective) (negated : Bool) :
      Splices (.group (front ++ .group inner connective false :: back) connective negated)
        (.group (front ++ inner ++ back) connective negated)
  | inside {member other : Condition} (front back : List Condition) (connective : Connective) (negated : Bool)
      (spliced : Splices member other) :
      Splices (.group (front ++ member :: back) connective negated)
        (.group (front ++ other :: back) connective negated)

/-- Whether one condition is the negation of another: the same group with the negation turned, or the other as the
only condition of a negated group. -/
inductive Negates : Condition → Condition → Prop
  | turned (members : List Condition) (connective : Connective) (negated : Bool) :
      Negates (.group members connective negated) (.group members connective (!negated))
  | wrapped (condition : Condition) (connective : Connective) :
      Negates condition (.group [condition] connective true)

variable {now record} {condition other : Condition}

theorem Splices.passes_eq (splices : Splices condition other) :
    passes now record condition = passes now record other := by
  induction splices with
  | here front inner back connective negated =>
    rw [Bool.eq_iff_iff, passes_group_iff, passes_group_iff]
    have own : passes now record (.group inner connective false) = true ↔
        connective.Joins (inner.map (passes now record)) := passes_group_iff now record
    have spliced := Connective.joins_splice (front.map (passes now record)) (back.map (passes now record)) own
    simp only [Finding.Meets, List.map_append, List.map_cons, spliced]
  | inside front back connective negated _ ih =>
    rw [Bool.eq_iff_iff, passes_group_iff, passes_group_iff, List.map_append, List.map_append, List.map_cons,
      List.map_cons, ih]

theorem Negates.passes_eq (negates : Negates condition other) :
    passes now record other = !passes now record condition := by
  cases negates with
  | turned members connective negated =>
    rw [Bool.eq_iff_iff, Bool.not_eq_true', ← Bool.not_eq_true, passes_group_iff, passes_group_iff]
    cases negated <;> simp [Finding.Meets]
  | wrapped _ connective =>
    rw [Bool.eq_iff_iff, Bool.not_eq_true', ← Bool.not_eq_true, passes_group_iff]
    cases connective <;> simp [Finding.Meets, Connective.Joins]

/-- Negations have the outcomes turned, one by one. -/
theorem map_passes_of_negates {conditions others : List Condition} (negates : List.Forall₂ Negates conditions others) :
    others.map (passes now record) = (conditions.map (passes now record)).map (!·) := by
  induction negates with
  | nil => rfl
  | cons first _ ih => simp only [List.map_cons, first.passes_eq, ih]

/-- What the evaluation of conditions comes to, at a moment, against any record. Each condition has its finding, in
their order. All of them are met exactly if the group is that joins them by `and`, in whatever order they stand. A
group that is not negated may be opened into one around it with the same connective, at any depth. The negation of a
group is the group of the negations with the other connective. -/
theorem evaluateAll_logic (now : Timestamp) (record : Value) :
    (∀ conditions, List.Forall₂ (Finding.IsOn now record) conditions (evaluateAll now record conditions)) ∧
    (∀ conditions, allHold now record conditions = passes now record (.group conditions .all false)) ∧
    (∀ conditions others, conditions.Perm others → allHold now record conditions = allHold now record others) ∧
    (∀ condition other, Splices condition other → passes now record condition = passes now record other) ∧
    ∀ members others connective, List.Forall₂ Negates members others →
      passes now record (.group members connective true) =
        passes now record (.group others connective.dual false) := by
  refine ⟨fun conditions => ?_, fun conditions => ?_, fun conditions others reordered => ?_,
    fun condition other splices => splices.passes_eq, fun members others connective negates => ?_⟩
  · rw [evaluateAll_eq_map, List.forall₂_map_right_iff, List.forall₂_same]
    exact fun condition _ => isOn_evaluate now record condition
  · rw [Bool.eq_iff_iff, allHold_iff, passes_group_iff]
    simp [Finding.Meets, Connective.Joins, passes]
  · rw [Bool.eq_iff_iff, allHold_iff, allHold_iff]
    simp only [reordered.mem_iff]
  · rw [Bool.eq_iff_iff, passes_group_iff, passes_group_iff, map_passes_of_negates negates]
    exact Connective.joins_dual_not.symm

/-- Someone of twenty years. -/
def person : Value :=
  .map [("name", .text "Ana"), ("age", .int 20)]

def ofAge : Condition :=
  .leaf ⟨"age", .equals, .int 20, none, none⟩

/-- A requirement whose bounds are not two, so that it cannot be compared. -/
def unbounded : Condition :=
  .leaf ⟨"age", .between, .list [.int 18], none, none⟩

/-- A requirement that fails leaves the one beside it to decide. Opened into the group around them, turned round or
negated, the two come to what they come to as they are. -/
theorem evaluateAll_logic_unbounded :
    let now : Timestamp := .midnight default
    let either := Condition.group [unbounded, ofAge] .any false
    List.Forall₂ (Finding.IsOn now person) [unbounded, either] (evaluateAll now person [unbounded, either]) ∧
      (evaluateAll now person [unbounded, either]).map (·.passed) = [false, true] ∧
      allHold now person [either, ofAge] = true ∧ allHold now person [ofAge, either] = true ∧
      passes now person (.group [either, ofAge] .any true) = false ∧
      passes now person (.group [unbounded, ofAge, ofAge] .any true) = false ∧
      passes now person (.group [.group [unbounded] .all true, .group [ofAge] .any true] .all false) = false := by
  intro now either
  obtain ⟨findings, -, reordered, spliced, negated⟩ := evaluateAll_logic now person
  have met : allHold now person [either, ofAge] = true := by decide +kernel
  have unmet : passes now person (.group [either, ofAge] .any true) = false := by decide +kernel
  refine ⟨findings _, by decide +kernel, met, ?_, unmet, ?_, ?_⟩
  · exact (reordered _ _ (.swap either ofAge [])).trans met
  · exact (spliced _ _ (.here [] [unbounded, ofAge] [ofAge] .any true)).symm.trans unmet
  · have turned : passes now person (.group [unbounded, ofAge] .any true) = false := by decide +kernel
    have each : List.Forall₂ Negates [unbounded, ofAge] [.group [unbounded] .all true, .group [ofAge] .any true] :=
      .cons (.wrapped unbounded .all) (.cons (.wrapped ofAge .any) .nil)
    exact (negated _ _ .any each).symm.trans turned

end Condition

end Obligations
