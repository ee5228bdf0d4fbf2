import Obligations.Bundle.Basic
import Obligations.Proofs.Condition.Logic
import Obligations.Proofs.Engine.Failing
import Obligations.Proofs.Value.Agreement
import Obligations.Source.Loading
import Mathlib.Tactic.Tauto

/-! # Bundled rules and the dates they start from

The requirements that bundled rules are written with are met where a field is given or missing, gives an
answer, exceeds a number, or holds a date that comes soon. Most of the rules ask for the date that their due
date starts from, or are for a stage that only subjects who have it reach. Four of them do not, and cannot be
judged for subjects without it.
-/

namespace Obligations

open Obligations.Calendar

/-- The order of whole numbers as values is their order. -/
theorem Value.order?_int_eq_gt (n bound : Int) :
    (Value.int n).order? (.int bound) = some .gt ↔ bound < n := by
  have positive : (0 : Int) < (Number.Binary64.unitsPerOne : Int) :=
    Int.natCast_pos.mpr Number.Binary64.unitsPerOne_pos
  have scaled : (Value.int n).order? (.int bound) =
      some (Ord.compare (n * (Number.Binary64.unitsPerOne : Int)) (bound * Number.Binary64.unitsPerOne)) :=
    rfl
  rw [scaled]
  generalize (Number.Binary64.unitsPerOne : Int) = units at positive
  have same : bound < n ↔ bound * units < n * units :=
    ⟨fun less => Int.mul_lt_mul_of_pos_right less positive,
      fun less => Int.lt_of_mul_lt_mul_right less (by omega)⟩
  rw [Option.some.injEq, same]
  exact Int.compare_eq_gt

namespace Bundle

variable {now : Timestamp} {record : Value} {field : String}

theorem passed_isGiven :
    ((isGiven field).evaluate now record).passed = !(record.atPath field).isNull := by
  refine Bool.eq_iff_iff.mpr (Condition.passes_leaf_iff.trans ?_)
  rw [Requirement.holds, Except.ok.injEq]

theorem passed_isMissing :
    ((isMissing field).evaluate now record).passed = (record.atPath field).isNull := by
  refine Bool.eq_iff_iff.mpr (Condition.passes_leaf_iff.trans ?_)
  rw [Requirement.holds, Except.ok.injEq]

theorem passed_isFlag {flag : Bool} {content : Option Bool}
    (found : record.atPath field = .ofOption .bool content) :
    ((isFlag field flag).evaluate now record).passed = (content == some flag) := by
  refine Bool.eq_iff_iff.mpr (Condition.passes_leaf_iff.trans ?_)
  rw [show record.atPath _ = _ from found]
  cases content with
  | none => simp [Requirement.holds, Value.ofOption, Value.isNull]
  | some answer => simp [Requirement.holds, Comparison.holds, Value.ofOption, Value.isNull, Value.agrees]

theorem passed_isFlag_of_answer {flag answer : Bool} (found : record.atPath field = .bool answer) :
    ((isFlag field flag).evaluate now record).passed = (answer == flag) := by
  have given : record.atPath field = .ofOption .bool (some answer) := found
  rw [passed_isFlag given]
  rfl

theorem passed_exceeds {bound n : Int} (found : record.atPath field = .int n) :
    ((exceeds field bound).evaluate now record).passed = decide (bound < n) := by
  refine Bool.eq_iff_iff.mpr (Condition.passes_leaf_iff.trans ?_)
  rw [show record.atPath _ = _ from found, decide_eq_true_eq, ← Value.order?_int_eq_gt]
  cases ordered : (Value.int n).order? (.int bound) <;>
    simp [Requirement.holds, Comparison.holds, Value.isNull, ordered, Outcome.ofPrinted, Outcome.mishap]

/-- A date that comes soon is given. -/
theorem given_of_comesWithin {time : Offset}
    (passed : ((comesWithin field time).evaluate now record).passed = true) :
    (record.atPath field).isNull = false := by
  cases given : (record.atPath field).isNull with
  | false => rfl
  | true =>
    have held := Condition.passes_leaf_iff.mp passed
    rw [Requirement.holds, show (record.atPath _).isNull = true from given] at held
    cases held

end Bundle

/-- The changes of a university are among those of the template. -/
theorem Template.exists_of_changesOf? {template : Template} {university : Option String}
    {changes : TemplateChanges} (found : template.changesOf? university = some changes) :
    ∃ name, (name, changes) ∈ template.changes := by
  cases university with
  | none => cases found
  | some name =>
    unfold changesOf? at found
    dsimp only at found
    split at found
    · cases found
    · obtain ⟨front, back, split, _⟩ := List.lookup_eq_some_iff.mp found
      exact ⟨name, split ▸ List.mem_append_right _ List.mem_cons_self⟩

/-- Changes without a plan leave the one of the template. -/
theorem Template.due_forUniversity {template : Template}
    (unplanned : ∀ entry ∈ template.changes, entry.2.due.isNone = true) (university : Option String) :
    (template.forUniversity university).due = template.due := by
  rw [forUniversity]
  split
  next changes found =>
    obtain ⟨name, listed⟩ := exists_of_changesOf? found
    rw [changed, Option.isNone_iff_eq_none.mp (unplanned _ listed), Option.none_or]
  next => rfl

/-- Whether a rule is for a subject and leaves an error instead of a judgement. -/
def Rule.Fails (rule : Rule) (context : Context) (now : Timestamp) : Prop :=
  rule.applies context.visa context.phase context.studies.universityId = true ∧
    rule.error? {} context now ≠ none

namespace Bundle

def rules : List Rule :=
  sets.flatMap (·.2)

/-- What a subject can be without although bundled rules that are for it start from that: the start of
a job, a day of the calendar on which its days of unemployment are used up, or the end of training. -/
inductive Strands (context : Context) : Prop
  | job (visa : context.visa = .f1 ∨ context.visa = .opt ∨ context.visa = .stemOpt)
      (phase : context.phase = .optActive ∨ context.phase = .stemActive)
      (started : context.employment.newJobStarted = true)
      (unreported : context.employment.jobReported = false)
      (missing : context.dates.employmentStart = none)
  | limit (visa : context.visa = .f1 ∨ context.visa = .opt ∨ context.visa = .stemOpt)
      (phase : context.phase = .optActive ∨ context.phase = .stemActive)
      (long : 60 < context.employment.unemploymentDaysUsed) (finish : Date)
      (ended : context.dates.employmentEnd = some finish)
      (outside : ¬ (1 ≤ finish.ordinal + context.employment.daysOfGrace ∧
        finish.ordinal + context.employment.daysOfGrace ≤ Date.lastOrdinal))
  | enrollment (visa : context.visa = .f1 ∨ context.visa = .opt) (phase : context.phase = .optActive)
      (stem : context.studies.isStem = true)
      (unconfirmed : context.employment.eVerifyCompliant ≠ some true)
      (missing : context.dates.optEnd = none)
  | plan (visa : context.visa = .f1 ∨ context.visa = .opt) (phase : context.phase = .optActive)
      (stem : context.studies.isStem = true)
      (unplanned : context.documents.lookup "i983Valid" = some false)
      (missing : context.dates.optEnd = none)

theorem unplanned_changes : ∀ rule ∈ rules, ∀ entry ∈ rule.template.changes,
    entry.2.due.isNone = true := by
  decide

/-- Bundled rules by what they start from. -/
theorem mem_rules_cases {rule : Rule} (listed : rule ∈ rules) :
    rule ∈ [addressChange, enrollment, missingCard, validationReport] ∨
      rule ∈ [passportRenewal, trainingWindow, programExtension, extensionWindow] ∨
      rule = adviserMeeting ∨
      rule ∈ [jobReporting, unemploymentLimit, employerEnrollment, trainingPlan] := by
  have all : rules = students ++ training ++ extension := rfl
  rw [all, students, training, extension] at listed
  simp only [List.mem_append, List.mem_cons, List.not_mem_nil, or_false] at listed ⊢
  tauto

section Dated

variable {context : Context} (contemporary : context.IsContemporary) {now : Timestamp}

include contemporary

/-- The rule for those who are about to graduate is dated where its stage tells of a graduation. -/
theorem isDated_adviserMeeting (staged : context.phase = .preGraduation → context.dates.graduation.isSome)
    (applies : adviserMeeting.applies context.visa context.phase context.studies.universityId = true) :
    adviserMeeting.template.IsDated context now.date := by
  have listed : ("graduationDate", context.dates.graduation) ∈ context.dates.named := by
    simp [Milestones.named]
  refine (Template.isDated_iff_given rfl contemporary rfl listed rfl rfl (by decide) (by decide)).mpr ?_
  apply staged
  have both : context.visa = .f1 ∧ context.phase = .preGraduation := by
    simpa [Rule.applies, isInScope, adviserMeeting] using applies
  exact both.2

variable (current : now.date.IsContemporary)

include current

/-- A bundled rule fails for the subjects that it is for, who meet its conditions, and for whom its
plan finds no date. -/
theorem fails_iff {rule : Rule} (listed : rule ∈ rules) :
    rule.Fails context now ↔
      rule.applies context.visa context.phase context.studies.universityId = true ∧
        Condition.allHold now context.toValue rule.conditions = true ∧
        ¬ rule.template.IsDated context now.date := by
  have same : (rule.templateFor {} context).IsDated context now.date ↔
      rule.template.IsDated context now.date := by
    rw [Template.IsDated, Template.IsDated, Rule.templateFor, if_pos rfl,
      Template.due_forUniversity (unplanned_changes rule listed)]
  have told : ∀ rule ∈ rules, (Condition.describeAll? rule.conditions).isSome = true := by decide +kernel
  rw [Rule.Fails, Ne, Rule.error?_eq_none_iff contemporary (told rule listed) rfl (by decide) current, same]
  simp only [Classical.not_imp]

/-- Rules that are due some days after today or after a move are dated for all subjects. -/
theorem isDated_of_today : ∀ rule ∈ [addressChange, enrollment, missingCard, validationReport],
    rule.template.IsDated context now.date := by
  simp only [List.forall_mem_cons, List.not_mem_nil, false_imp_iff, implies_true, and_true]
  have twiceYearly : Cadence.ofName? "semi-annually" = some .semiAnnually := by decide
  refine ⟨?address, ?enrollment, ?card, ?report⟩
  case address =>
    have named : Formula.ofCode? (Text.trim "address_update_deadline") = some .addressUpdate := by decide
    exact (Template.isDated_iff_serves rfl contemporary current rfl rfl named).mpr trivial
  case enrollment => exact Template.isDated_of_recurring rfl current rfl rfl twiceYearly
  case card => exact fun plan absurd => nomatch absurd
  case report => exact Template.isDated_of_recurring rfl current rfl rfl twiceYearly

/-- Rules that ask for the date that they start from are dated where their conditions are met. -/
theorem isDated_of_allHold :
    ∀ rule ∈ [passportRenewal, trainingWindow, programExtension, extensionWindow],
      Condition.allHold now context.toValue rule.conditions = true →
        rule.template.IsDated context now.date := by
  have given : ∀ entry ∈ context.dates.named,
      (context.toValue.atPath ("dates." ++ entry.1)).isNull = false → entry.2.isSome = true := by
    rintro ⟨name, _ | date⟩ listed present
    · rw [context.atPath_date _ listed] at present
      cases present
    · rfl
  simp only [Condition.allHold_iff, List.forall_mem_cons, List.not_mem_nil, false_imp_iff, implies_true,
    and_true]
  refine ⟨?passport, ?window, ?program, ?extension⟩
  case passport =>
    intro met
    have listed : ("passportExpiryDate", context.dates.passportExpiry) ∈ context.dates.named := by
      simp [Milestones.named]
    have named : Formula.ofCode? (Text.trim "passport_renewal_urgent") = some .passportRenewal := by
      decide
    refine (Template.isDated_iff_serves rfl contemporary current rfl rfl named).mpr ?_
    exact given _ listed (given_of_comesWithin (met _ List.mem_cons_self))
  case window =>
    intro met
    have listed : ("graduationDate", context.dates.graduation) ∈ context.dates.named := by
      simp [Milestones.named]
    have named : Formula.ofCode? (Text.trim "opt_application_window") = some .optApplicationWindow := by
      decide
    refine (Template.isDated_iff_serves rfl contemporary current rfl rfl named).mpr ?_
    exact given _ listed (by simpa [passed_isGiven] using met _ List.mem_cons_self)
  case program =>
    intro met
    have listed : ("i20ExpiryDate", context.dates.i20Expiry) ∈ context.dates.named := by
      simp [Milestones.named]
    refine (Template.isDated_iff_given rfl contemporary rfl listed rfl rfl (by decide) (by decide)).mpr ?_
    exact given _ listed (given_of_comesWithin (met _ List.mem_cons_self))
  case extension =>
    intro met
    have listed : ("optEndDate", context.dates.optEnd) ∈ context.dates.named := by
      simp [Milestones.named]
    have named : Formula.ofCode? (Text.trim "stem_extension_deadline") = some .stemExtensionDeadline := by
      decide
    refine (Template.isDated_iff_serves rfl contemporary current rfl rfl named).mpr ?_
    have last : isGiven "dates.optEndDate" ∈ extensionWindow.conditions := by simp [extensionWindow]
    exact given _ listed (by simpa [passed_isGiven] using met _ last)

/-- A new job is to be reported some days after its start, which nothing asks for. -/
theorem fails_jobReporting_iff : jobReporting.Fails context now ↔
    (context.visa = .f1 ∨ context.visa = .opt ∨ context.visa = .stemOpt) ∧
      (context.phase = .optActive ∨ context.phase = .stemActive) ∧
      context.employment.newJobStarted = true ∧ context.employment.jobReported = false ∧
      context.dates.employmentStart = none := by
  have listed : ("employmentStartDate", context.dates.employmentStart) ∈ context.dates.named := by
    simp [Milestones.named]
  have dated : jobReporting.template.IsDated context now.date ↔ context.dates.employmentStart.isSome :=
    Template.isDated_iff_given rfl contemporary rfl listed rfl rfl (by decide) (by decide)
  have started : context.toValue.atPath "employment.newJobStarted" =
      .bool context.employment.newJobStarted := rfl
  have reported : context.toValue.atPath "employment.jobReportedToDSO" =
      .bool context.employment.jobReported := rfl
  rw [fails_iff contemporary current (by simp [rules, sets, training]), dated, Condition.allHold_iff]
  simp [jobReporting, Rule.applies, isInScope, passed_isFlag_of_answer started,
    passed_isFlag_of_answer reported, and_assoc]

/-- The limit of unemployment counts from the end of employment, and the days are not bounded. -/
theorem fails_unemploymentLimit_iff : unemploymentLimit.Fails context now ↔
    (context.visa = .f1 ∨ context.visa = .opt ∨ context.visa = .stemOpt) ∧
      (context.phase = .optActive ∨ context.phase = .stemActive) ∧
      60 < context.employment.unemploymentDaysUsed ∧
      ∃ finish, context.dates.employmentEnd = some finish ∧
        ¬ (1 ≤ finish.ordinal + context.employment.daysOfGrace ∧
          finish.ordinal + context.employment.daysOfGrace ≤ Date.lastOrdinal) := by
  have listed : ("employmentEndDate", context.dates.employmentEnd) ∈ context.dates.named := by
    simp [Milestones.named]
  have named : Formula.ofCode? (Text.trim "unemployment_grace_end") = some .unemploymentGraceEnd := by
    decide
  have dated : unemploymentLimit.template.IsDated context now.date ↔
      context.Serves .unemploymentGraceEnd :=
    Template.isDated_iff_serves rfl contemporary current rfl rfl named
  have used : context.toValue.atPath "employment.unemploymentDaysUsed" =
      .int context.employment.unemploymentDaysUsed := rfl
  have ended : ((isGiven "dates.employmentEndDate").evaluate now context.toValue).passed =
      context.dates.employmentEnd.isSome := by
    have found : context.toValue.atPath "dates.employmentEndDate" =
        .ofOption .date context.dates.employmentEnd := context.atPath_date _ listed
    rw [passed_isGiven, found]
    cases context.dates.employmentEnd <;> rfl
  rw [fails_iff contemporary current (by simp [rules, sets, training]), dated, Condition.allHold_iff]
  simp only [unemploymentLimit, Context.Serves, List.forall_mem_cons, passed_exceeds used, ended]
  cases context.dates.employmentEnd <;> simp [Rule.applies, isInScope, and_assoc]

/-- The enrollment of the employer is due before training ends, which nothing asks for. -/
theorem fails_employerEnrollment_iff : employerEnrollment.Fails context now ↔
    (context.visa = .f1 ∨ context.visa = .opt) ∧
      (context.phase = .optActive ∨ context.phase = .stemApplication) ∧
      context.studies.isStem = true ∧ context.employment.eVerifyCompliant ≠ some true ∧
      context.dates.optEnd = none := by
  have listed : ("optEndDate", context.dates.optEnd) ∈ context.dates.named := by
    simp [Milestones.named]
  have dated : employerEnrollment.template.IsDated context now.date ↔ context.dates.optEnd.isSome :=
    Template.isDated_iff_given rfl contemporary rfl listed rfl rfl (by decide) (by decide)
  have stem : context.toValue.atPath "academic.isSTEM" = .bool context.studies.isStem := rfl
  have unconfirmed : ((Condition.group [isMissing "employment.eVerifyCompliant",
      isFlag "employment.eVerifyCompliant" false] .any false).evaluate now context.toValue).passed =
        (context.employment.eVerifyCompliant != some true) := by
    rw [Condition.evaluate, Finding.ofGroup]
    simp only [Condition.evaluateAll, List.map_cons, List.map_nil, passed_isMissing,
      passed_isFlag context.atPath_eVerify, context.atPath_eVerify]
    cases context.employment.eVerifyCompliant with
    | none => rfl
    | some compliant => cases compliant <;> rfl
  rw [fails_iff contemporary current (by simp [rules, sets, extension]), dated, Condition.allHold_iff]
  simp [employerEnrollment, Rule.applies, isInScope, passed_isFlag_of_answer stem, unconfirmed,
    and_assoc]

/-- The plan of the training is due before training ends, which nothing asks for. -/
theorem fails_trainingPlan_iff : trainingPlan.Fails context now ↔
    (context.visa = .f1 ∨ context.visa = .opt) ∧
      (context.phase = .optActive ∨ context.phase = .stemApplication) ∧
      context.studies.isStem = true ∧ context.documents.lookup "i983Valid" = some false ∧
      context.dates.optEnd = none := by
  have listed : ("optEndDate", context.dates.optEnd) ∈ context.dates.named := by
    simp [Milestones.named]
  have dated : trainingPlan.template.IsDated context now.date ↔ context.dates.optEnd.isSome :=
    Template.isDated_iff_given rfl contemporary rfl listed rfl rfl (by decide) (by decide)
  have stem : context.toValue.atPath "academic.isSTEM" = .bool context.studies.isStem := rfl
  have unplanned : context.toValue.atPath "documents.i983Valid" =
      .ofOption .bool (context.documents.lookup "i983Valid") := context.atPath_document (by decide)
  rw [fails_iff contemporary current (by simp [rules, sets, extension]), dated, Condition.allHold_iff]
  simp [trainingPlan, Rule.applies, isInScope, passed_isFlag_of_answer stem, passed_isFlag unplanned,
    and_assoc]

/-- Some bundled rule fails for a subject exactly if the subject strands one. -/
theorem exists_fails_iff
    (graduating : context.phase = .preGraduation → context.dates.graduation.isSome)
    (extending : context.phase = .stemApplication → context.dates.optEnd.isSome) :
    (∃ rule ∈ rules, rule.Fails context now) ↔ Strands context := by
  constructor
  · rintro ⟨rule, listed, fails⟩
    obtain ⟨applies, met, undated⟩ := (fails_iff contemporary current listed).mp fails
    have inTraining : context.phase = .optActive ∨ context.phase = .stemApplication →
        context.dates.optEnd = none → context.phase = .optActive := by
      rintro (active | applying) missing
      · exact active
      · have given := extending applying
        rw [missing] at given
        cases given
    rcases mem_rules_cases listed with always | guarded | rfl | bare
    · exact (undated (isDated_of_today contemporary current rule always)).elim
    · exact (undated (isDated_of_allHold contemporary current rule guarded met)).elim
    · exact (undated (isDated_adviserMeeting contemporary graduating applies)).elim
    · simp only [List.mem_cons, List.not_mem_nil, or_false] at bare
      rcases bare with rfl | rfl | rfl | rfl
      · obtain ⟨visa, phase, started, unreported, missing⟩ :=
          (fails_jobReporting_iff contemporary current).mp fails
        exact .job visa phase started unreported missing
      · obtain ⟨visa, phase, long, finish, ended, outside⟩ :=
          (fails_unemploymentLimit_iff contemporary current).mp fails
        exact .limit visa phase long finish ended outside
      · obtain ⟨visa, phase, stem, unconfirmed, missing⟩ :=
          (fails_employerEnrollment_iff contemporary current).mp fails
        exact .enrollment visa (inTraining phase missing) stem unconfirmed missing
      · obtain ⟨visa, phase, stem, unplanned, missing⟩ :=
          (fails_trainingPlan_iff contemporary current).mp fails
        exact .plan visa (inTraining phase missing) stem unplanned missing
  · rintro (⟨visa, phase, started, unreported, missing⟩ | ⟨visa, phase, long, finish, ended, outside⟩ |
      ⟨visa, phase, stem, unconfirmed, missing⟩ | ⟨visa, phase, stem, unplanned, missing⟩)
    · exact ⟨jobReporting, by simp [rules, sets, training], (fails_jobReporting_iff contemporary
        current).mpr ⟨visa, phase, started, unreported, missing⟩⟩
    · exact ⟨unemploymentLimit, by simp [rules, sets, training], (fails_unemploymentLimit_iff
        contemporary current).mpr ⟨visa, phase, long, finish, ended, outside⟩⟩
    · exact ⟨employerEnrollment, by simp [rules, sets, extension], (fails_employerEnrollment_iff
        contemporary current).mpr ⟨visa, Or.inl phase, stem, unconfirmed, missing⟩⟩
    · exact ⟨trainingPlan, by simp [rules, sets, extension], (fails_trainingPlan_iff contemporary
        current).mpr ⟨visa, Or.inl phase, stem, unplanned, missing⟩⟩

end Dated

end Bundle

end Obligations
