import Obligations.Proofs.Outcome
import Obligations.Proofs.Value.Order
import Obligations.Rule.Check

/-! # What a check of conditions rules out

A condition in which a check finds no errors, and that asks for no time, can be compared with any record, however deep
its requirements lie. Only the patterns that are too long, or that may take too long, are refused all the same: the
check looks at whether a text is a pattern, and the guard stands before the search. Besides, what is not met is told
with the value of the field and the operand, and this stops the evaluation where one of them cannot be printed.
-/

namespace Obligations

open Obligations.Calendar

/-- Whether a pattern is refused before it is tried. -/
def Pattern.IsGuarded (pattern : String) : Prop :=
  lengthLimit < pattern.toList.length ∨ isUnsafe pattern.toList = true

namespace Requirement

variable {requirement : Requirement} {now : Timestamp} {actual : Value}

/-- What is not met can be told, unless a value that it is told with cannot be printed. -/
theorem unmetText?_eq_none_iff (untimed : requirement.time = none) : requirement.unmetText? actual = none ↔
    ¬ (actual.isPrintable = true ∧ requirement.operand.isPrintable = true) := by
  rw [unmetText?, timeText?, untimed, Value.shown?, Value.shown?]
  cases actual.isPrintable <;> cases requirement.operand.isPrintable <;> simp

/-- The words for an outcome begin with another letter than those for what stood against it. -/
theorem head?_of_outcome {told : Bool × String} (ended : requirement.outcome now actual = .ok told) :
    told.2.toList.head? ≠ some 'E' := by
  obtain ⟨passed, held, ended⟩ := Outcome.bind_eq_ok.mp ended
  cases passed with
  | true =>
    cases ended
    decide
  | false =>
    obtain ⟨words, printed, same⟩ := Outcome.bind_eq_ok.mp ended
    cases same
    rw [Outcome.ofPrinted_eq_ok, unmetText?] at printed
    simp only [Option.bind_eq_bind, Option.bind_eq_some_iff] at printed
    obtain ⟨_, -, _, -, _, -, same⟩ := printed
    rw [← Option.some.inj same]
    simp [String.toList_append]

end Requirement

namespace Finding

/-- Whether a finding tells that something stood against the evaluation. -/
def IsDiagnosis (finding : Finding) : Prop :=
  ∃ message, finding.reason = "Evaluation error: " ++ message

mutual

/-- The findings on single requirements that a finding comes from. -/
def leaves : Finding → List Finding
  | ⟨.leaf requirement, passed, actual, expected, reason, nested⟩ =>
    [⟨.leaf requirement, passed, actual, expected, reason, nested⟩]
  | ⟨.group .., _, _, _, _, nested⟩ => leavesOf nested

/-- The findings on single requirements that findings come from. -/
def leavesOf : List Finding → List Finding
  | [] => []
  | finding :: rest => finding.leaves ++ leavesOf rest

end

theorem leavesOf_eq (findings : List Finding) : leavesOf findings = findings.flatMap leaves := by
  induction findings with
  | nil => rfl
  | cons finding rest ih => rw [leavesOf, ih, List.flatMap_cons]

theorem condition_ofRequirement (requirement : Requirement) (now : Timestamp) (record : Value) :
    (ofRequirement requirement now record).condition = .leaf requirement := by
  rw [ofRequirement]
  split <;> rfl

theorem leaves_ofRequirement (requirement : Requirement) (now : Timestamp) (record : Value) :
    (ofRequirement requirement now record).leaves = [ofRequirement requirement now record] := by
  rw [ofRequirement]
  split <;> rw [leaves]

/-- A finding is a diagnosis exactly if the requirement cannot be compared, or what it comes to cannot be told. -/
theorem isDiagnosis_ofRequirement {requirement : Requirement} {now : Timestamp} {record : Value} :
    (ofRequirement requirement now record).IsDiagnosis ↔
      ∃ problem, requirement.outcome now (record.atPath requirement.field) = .error problem := by
  rw [IsDiagnosis, ofRequirement]
  cases ended : requirement.outcome now (record.atPath requirement.field) with
  | error problem => simp
  | ok told =>
    refine iff_of_false ?_ (by simp)
    rintro ⟨message, same : told.2 = _⟩
    refine Requirement.head?_of_outcome ended ?_
    rw [same, String.toList_append, List.head?_append]
    rfl

end Finding

namespace Comparison

/-- A pattern that can be read is searched for unless it is refused. -/
theorem exists_searchPattern_eq_error {field pattern content : String} {read : Pattern}
    (sound : Pattern.ofText pattern = .ok read) :
    (∃ problem, searchPattern field pattern content = .error problem) ↔ Pattern.IsGuarded pattern := by
  rw [searchPattern, Pattern.IsGuarded]
  by_cases long : Pattern.lengthLimit < pattern.toList.length
  · simp [long, failAt, Outcome.fail]
  by_cases slow : Pattern.isUnsafe pattern.toList = true
  · simp [long, slow, failAt, Outcome.fail]
  · simp [long, slow, sound]

variable {actual operand : Value}

/-- Values that can be printed have an order. -/
theorem exists_order? (printable : actual.isPrintable = true) (printableToo : operand.isPrintable = true) :
    ∃ place, actual.order? operand = some place := by
  rw [← Option.ne_none_iff_exists', Ne, Value.order?_eq_none_iff, printable, printableToo]
  simp

/-- Whether a value lies between two bounds can be told if all three can be printed. -/
theorem exists_isBetween {low high : Value} (printable : actual.isPrintable = true)
    (lowPrintable : low.isPrintable = true) (highPrintable : high.isPrintable = true) :
    ∃ between, isBetween actual low high = .ok between := by
  obtain ⟨first, behind⟩ := exists_order? printable lowPrintable
  obtain ⟨second, ahead⟩ := exists_order? printable highPrintable
  rw [isBetween, behind, ahead]
  cases first <;> exact ⟨_, rfl⟩

/-- Whether a value that can be printed is in another one can be told. -/
theorem exists_holds? (container : Value) (printable : operand.isPrintable = true) :
    ∃ inside, container.holds? operand = some inside := by
  unfold Value.holds?
  split
  · exact ⟨_, rfl⟩
  · exact ⟨_, rfl⟩
  · split
    · rw [Value.shown?_of_isPrintable printable]
      exact ⟨_, rfl⟩
    · exact ⟨_, rfl⟩

/-- Values that can be printed are searched for a pattern in the text that they are shown as. -/
theorem holds_regex (field : String) (printable : actual.isPrintable = true)
    (printableToo : operand.isPrintable = true) :
    Comparison.regex.holds field actual operand = searchPattern field operand.shown actual.shown := by
  rw [holds, Value.shown?_of_isPrintable printable, Value.shown?_of_isPrintable printableToo]
  rfl

/-- A search has no outcome where one of the values cannot be printed. -/
theorem holds_regex_ne_ok (field : String) (unprintable : ¬ (actual.isPrintable = true ∧ operand.isPrintable = true))
    (passed : Bool) : Comparison.regex.holds field actual operand ≠ .ok passed := by
  intro held
  obtain ⟨_, pattern, held⟩ := Outcome.bind_eq_ok.mp held
  obtain ⟨_, content, -⟩ := Outcome.bind_eq_ok.mp held
  rw [Outcome.ofPrinted_eq_ok, Value.shown?_eq_some] at pattern content
  exact unprintable ⟨content.1, pattern.1⟩

end Comparison

namespace Requirement

variable {requirement : Requirement} {now : Timestamp} {actual : Value}

/-- The pattern of a search that is in order can be printed and read. -/
theorem exists_ofText_of_operandFault? (checked : requirement.operandFault? = .ok none)
    (searches : requirement.comparison = .regex) :
    requirement.operand.isPrintable = true ∧ ∃ read, Pattern.ofText requirement.operand.shown = .ok read := by
  rw [operandFault?, searches] at checked
  obtain ⟨pattern, printed, checked⟩ := Outcome.bind_eq_ok.mp checked
  obtain ⟨printable, rfl⟩ := Value.shown?_eq_some.mp (Outcome.ofPrinted_eq_ok.mp printed)
  cases sound : Pattern.ofText requirement.operand.shown with
  | ok read => exact ⟨printable, read, rfl⟩
  | error fault => cases fault <;> simp [sound, Outcome.mishap] at checked

/-- The bounds of a comparison that is in order are two. -/
theorem exists_bounds_of_operandFault? (checked : requirement.operandFault? = .ok none)
    (bounded : requirement.comparison = .between) : ∃ low high, requirement.operand = .list [low, high] := by
  unfold operandFault? at checked
  split at checked
  case h_1 low high _ same => exact ⟨low, high, same⟩
  case h_2 => cases checked
  all_goals simp_all

/-- A requirement whose operand is in order, and that asks for no time, fails exactly where there is something to
search with a pattern that is refused, if the values can be printed. -/
theorem exists_holds_eq_error (checked : requirement.operandFault? = .ok none) (untimed : requirement.time = none)
    (printable : actual.isPrintable = true) (printableToo : requirement.operand.isPrintable = true) :
    (∃ problem, requirement.holds now actual = .error problem) ↔
      requirement.comparison = .regex ∧ actual.isNull = false ∧ Pattern.IsGuarded requirement.operand.shown := by
  have searched := exists_ofText_of_operandFault? checked
  have bounded := exists_bounds_of_operandFault? checked
  obtain ⟨place, ordered⟩ := Comparison.exists_order? printable printableToo
  obtain ⟨inside, found⟩ := Comparison.exists_holds? actual printableToo
  obtain ⟨field, comparison, operand, time, connective⟩ := requirement
  obtain rfl : time = none := untimed
  cases missing : actual.isNull with
  | true => cases comparison <;> simp [holds, missing]
  | false =>
    cases comparison with
    | regex =>
      obtain ⟨-, read, sound⟩ := searched rfl
      have held : holds ⟨field, .regex, operand, none, connective⟩ now actual =
          Comparison.searchPattern field operand.shown actual.shown := by
        rw [holds_of_untimed rfl (by simp), missing]
        exact Comparison.holds_regex field printable printableToo
      rw [held, Comparison.exists_searchPattern_eq_error sound]
      simp
    | between =>
      obtain ⟨low, high, rfl⟩ := bounded rfl
      obtain ⟨lowPrintable, highPrintable⟩ : low.isPrintable = true ∧ high.isPrintable = true := by
        simpa [Value.isPrintable, Value.arePrintable] using printableToo
      obtain ⟨between, told⟩ := Comparison.exists_isBetween printable lowPrintable highPrintable
      simp [holds, missing, Comparison.holds, told]
    | isIn | notIn => cases operand <;> simp [holds, missing, Comparison.holds]
    | _ => simp [holds, missing, Comparison.holds, ordered, found, Outcome.ofPrinted]

/-- What a requirement comes to cannot be told exactly where it cannot be compared, or is not met and a value cannot be
printed. -/
theorem exists_outcome_eq_error_iff (untimed : requirement.time = none) :
    (∃ problem, requirement.outcome now actual = .error problem) ↔
      (∃ problem, requirement.holds now actual = .error problem) ∨ (requirement.holds now actual = .ok false ∧
        ¬ (actual.isPrintable = true ∧ requirement.operand.isPrintable = true)) := by
  cases held : requirement.holds now actual with
  | error problem => simp [outcome_of_failed held]
  | ok passed =>
    rw [outcome_of_holds held]
    cases passed with
    | true => simp
    | false =>
      rw [← unmetText?_eq_none_iff untimed]
      cases requirement.unmetText? actual <;> simp [Outcome.ofPrinted, Outcome.mishap, Except.map]

/-- A requirement whose operand is in order, and that asks for no time, stops where there is something to search with a
pattern that is refused, or where it is not met and a value cannot be printed. -/
theorem exists_outcome_eq_error (checked : requirement.operandFault? = .ok none) (untimed : requirement.time = none)
    (now : Timestamp) (actual : Value) : (∃ problem, requirement.outcome now actual = .error problem) ↔
      (requirement.comparison = .regex ∧ actual.isNull = false ∧ Pattern.IsGuarded requirement.operand.shown) ∨
      (requirement.holds now actual ≠ .ok true ∧
        ¬ (actual.isPrintable = true ∧ requirement.operand.isPrintable = true)) := by
  rw [exists_outcome_eq_error_iff untimed]
  by_cases printable : actual.isPrintable = true ∧ requirement.operand.isPrintable = true
  · simp [printable, exists_holds_eq_error checked untimed printable.1 printable.2]
  · have unmet : requirement.comparison = .regex ∧ actual.isNull = false ∧
        Pattern.IsGuarded requirement.operand.shown → requirement.holds now actual ≠ .ok true := by
      rintro ⟨searches, present, -⟩
      rw [holds_of_untimed untimed (by simp [searches]), present, searches]
      exact Comparison.holds_regex_ne_ok _ printable true
    refine Iff.trans ?_ (or_iff_right_of_imp fun refused => ⟨unmet refused, printable⟩).symm
    rw [and_iff_left printable, and_iff_left printable]
    cases requirement.holds now actual <;> simp

/-- A requirement without errors has its operand in order. -/
theorem operandFault?_of_errors (checked : requirement.errors = .ok []) : requirement.operandFault? = .ok none := by
  obtain ⟨fault, found, same⟩ := Outcome.bind_eq_ok.mp checked
  obtain ⟨-, none⟩ := List.append_eq_nil_iff.mp (Except.ok.inj same)
  rw [found, Option.toList_eq_nil_iff.mp none]

end Requirement

namespace Condition

/-- A list of conditions without errors has none without them. -/
theorem errors_of_errorsOfAll {conditions : List Condition} {label : String} {index : Nat}
    (checked : errorsOfAll label index conditions = .ok []) :
    ∀ condition ∈ conditions, ∃ own, condition.errors own = .ok [] := by
  induction conditions generalizing index with
  | nil => simp
  | cons condition rest ih =>
    rw [errorsOfAll] at checked
    obtain ⟨found, own, checked⟩ := Outcome.bind_eq_ok.mp checked
    obtain ⟨others, more, same⟩ := Outcome.bind_eq_ok.mp checked
    obtain ⟨rfl, rfl⟩ := List.append_eq_nil_iff.mp (Except.ok.inj same)
    exact List.forall_mem_cons.mpr ⟨⟨_, own⟩, ih more⟩

/-- In a condition without errors all requirements have none, however deep they lie. -/
theorem errors_of_mem_requirements {condition : Condition} {label : String} (checked : condition.errors label = .ok []) :
    ∀ requirement ∈ condition.requirements, requirement.errors = .ok [] := by
  induction condition using induction generalizing label with
  | leaf requirement =>
    rw [errors] at checked
    obtain ⟨found, own, same⟩ := Outcome.bind_eq_ok.mp checked
    obtain rfl := List.map_eq_nil_iff.mp (Except.ok.inj same)
    rw [requirements]
    simpa using own
  | group members connective negated each =>
    rw [errors] at checked
    obtain ⟨nested, inside, same⟩ := Outcome.bind_eq_ok.mp checked
    obtain ⟨-, rfl⟩ := List.append_eq_nil_iff.mp (Except.ok.inj same)
    rw [requirements, requirementsOf_eq]
    intro requirement listed
    obtain ⟨member, own, deeper⟩ := List.mem_flatMap.mp listed
    obtain ⟨label, fine⟩ := errors_of_errorsOfAll inside member own
    exact each member own fine requirement deeper

/-- The findings on the requirements of a condition are those on each of them, in their order. -/
theorem leaves_evaluate (now : Timestamp) (record : Value) (condition : Condition) :
    (condition.evaluate now record).leaves =
      condition.requirements.map (Finding.ofRequirement · now record) := by
  induction condition using induction with
  | leaf requirement =>
    rw [evaluate, requirements, Finding.leaves_ofRequirement, List.map_singleton]
  | group members connective negated each =>
    rw [evaluate, Finding.ofGroup, Finding.leaves, Finding.leavesOf_eq, evaluateAll_eq_map, requirements,
      requirementsOf_eq, List.flatMap_map, List.map_flatMap]
    exact List.flatMap_congr each

/-- What the evaluation of a condition can be stopped by, at a moment, against any record, if a check has found no
errors in it and no requirement asks for a time. Each of its requirements has one finding, in their order. This tells
that something stood against the evaluation exactly if there is something to search with a pattern that is refused
before it is tried, or if the requirement is not met and the value of its field or its operand cannot be printed. -/
theorem isDiagnosis_iff_isGuarded {condition : Condition} {label : String} (checked : condition.errors label = .ok [])
    (untimed : ∀ requirement ∈ condition.requirements, requirement.time = none) (now : Timestamp) (record : Value) :
    (condition.evaluate now record).leaves.map (·.condition) = condition.requirements.map .leaf ∧
    ∀ finding ∈ (condition.evaluate now record).leaves, ∀ requirement, finding.condition = .leaf requirement →
      (finding.IsDiagnosis ↔
        (requirement.comparison = .regex ∧ (record.atPath requirement.field).isNull = false ∧
          Pattern.IsGuarded requirement.operand.shown) ∨
        (finding.passed = false ∧
          ¬ ((record.atPath requirement.field).isPrintable = true ∧ requirement.operand.isPrintable = true))) := by
  rw [leaves_evaluate]
  constructor
  · rw [List.map_map]
    exact List.map_congr_left fun requirement _ => Finding.condition_ofRequirement requirement now record
  · intro finding listed requirement about
    obtain ⟨own, inside, rfl⟩ := List.mem_map.mp listed
    rw [Finding.condition_ofRequirement] at about
    cases about
    have fine := Requirement.operandFault?_of_errors (errors_of_mem_requirements checked requirement inside)
    have passed : (Finding.ofRequirement requirement now record).passed = false ↔
        requirement.holds now (record.atPath requirement.field) ≠ .ok true := by
      rw [← Bool.not_eq_true, Ne, ← passes_leaf_iff, passes, evaluate]
    rw [Finding.isDiagnosis_ofRequirement, passed]
    exact Requirement.exists_outcome_eq_error fine (untimed requirement inside) now _

def nameSearch : Requirement :=
  ⟨"name", .regex, .text "(a+)+", none, none⟩

/-- A name that is searched for this, or else is one of two. -/
def searched : Condition :=
  .group [.leaf nameSearch, .leaf ⟨"name", .isIn, .list [.text "aa", .text "aaa"], none, none⟩] .any false

/-- Someone with a name in which the pattern occurs. -/
def repeatedName : Value :=
  .map [("name", .text "aaa")]

theorem errors_searched : searched.errors "Condition 0" = .ok [] :=
  Outcome.toOption_eq_some.mp (by decide +kernel)

theorem untimed_searched : ∀ requirement ∈ searched.requirements, requirement.time = none := by
  simp [searched, nameSearch, requirements, requirementsOf]

/-- The search is stopped where there is a name, and nothing is where there is none. -/
theorem isDiagnosis_iff_isGuarded_searched :
    searched.errors "Condition 0" = .ok [] ∧ (∀ requirement ∈ searched.requirements, requirement.time = none) ∧
      (∀ finding ∈ (searched.evaluate (.midnight default) repeatedName).leaves,
        finding.condition = .leaf nameSearch → finding.IsDiagnosis) ∧
      ∀ finding ∈ (searched.evaluate (.midnight default) (.map [])).leaves,
        finding.condition = .leaf nameSearch → ¬ finding.IsDiagnosis := by
  have diagnosis (record : Value) :=
    (isDiagnosis_iff_isGuarded errors_searched untimed_searched (.midnight default) record).2
  refine ⟨errors_searched, untimed_searched, fun finding listed about => ?_, fun finding listed about => ?_⟩
  · exact (diagnosis repeatedName finding listed nameSearch about).mpr
      (.inl ⟨rfl, by decide +kernel, Or.inr (by decide +kernel)⟩)
  · rw [diagnosis (.map []) finding listed nameSearch about]
    rintro (⟨-, present, -⟩ | ⟨-, unprintable⟩)
    · exact absurd present (by decide +kernel)
    · exact unprintable (by decide +kernel)

/-- A check finds nothing wrong with the pattern, which can be read, and the evaluation is stopped by it. -/
theorem isDiagnosis_of_errors_eq_nil :
    searched.errors "Condition 0" = .ok [] ∧ (∀ requirement ∈ searched.requirements, requirement.time = none) ∧
      ∃ finding ∈ (searched.evaluate (.midnight default) repeatedName).leaves, finding.IsDiagnosis := by
  refine ⟨errors_searched, untimed_searched, Finding.ofRequirement nameSearch (.midnight default) repeatedName, ?_, ?_⟩
  · rw [leaves_evaluate]
    exact List.mem_cons_self
  · exact ⟨"Regex pattern contains potentially dangerous constructs", by decide +kernel⟩

end Condition

end Obligations
