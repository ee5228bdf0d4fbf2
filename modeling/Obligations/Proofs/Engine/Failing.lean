import Obligations.Proofs.DueDate.Finding
import Obligations.Proofs.Engine.Judging

/-! # Rules that cannot be judged

As long as the dates of a subject are of the years around ours, texts are filled in whatever they ask
for, and all that stands against a judgement on conditions that can be told is a due date that is not found.
-/

namespace Obligations

open Obligations.Calendar

namespace Context.IsContemporary

variable {context : Context} (contemporary : context.IsContemporary)

include contemporary

theorem exists_tenDaysAfter :
    (∃ text, Wording.tenDaysAfter context.residence.lastMoved = .ok text) ∧
      ∃ text, Wording.tenDaysAfter context.dates.employmentStart = .ok text := by
  have added : ∀ date : Option Date, (∀ day ∈ date, day.IsContemporary) →
      ∃ text, Wording.tenDaysAfter date = .ok text := by
    rintro (_ | day) near
    · exact ⟨"", rfl⟩
    · obtain ⟨later, moved, _⟩ := (near day rfl).exists_addDays 10 (by decide) (by decide)
      exact ⟨later.longText, by rw [Wording.tenDaysAfter, moved]; rfl⟩
  exact ⟨added _ contemporary.lastMoved,
    added _ (contemporary.dates ("employmentStartDate", _) (by simp [Milestones.named]))⟩

/-- Every text is filled in, whatever its placeholders are. -/
theorem exists_render (content : String) (today : Date) :
    ∃ text, Wording.render content context today = .ok text := by
  obtain ⟨⟨address, first⟩, job, second⟩ := contemporary.exists_tenDaysAfter
  have figures : ∃ values, Wording.figures context today = .ok values := by
    rw [Wording.figures, first, second]
    exact ⟨_, rfl⟩
  obtain ⟨calculated, known⟩ := figures
  have vocabulary : ∃ values, Wording.vocabulary context today = .ok values := by
    rw [Wording.vocabulary, known]
    exact ⟨_, rfl⟩
  obtain ⟨values, known⟩ := vocabulary
  rw [Wording.render]
  split
  · exact ⟨"", rfl⟩
  · rw [known]
    exact ⟨_, rfl⟩

theorem exists_placeholderValues (template : Template) (today : Date) :
    ∃ values, Rule.placeholderValues template context today = .ok values := by
  rw [Rule.placeholderValues]
  induction Rule.placeholders template with
  | nil => exact ⟨[], rfl⟩
  | cons name rest ih =>
    obtain ⟨text, filled⟩ := contemporary.exists_render ("\x7b" ++ name ++ "\x7d") today
    obtain ⟨others, same⟩ := ih
    rw [List.mapM_cons, filled, same]
    exact ⟨_, rfl⟩

end Context.IsContemporary

theorem DuePlan.exists_dueDate_iff {plan : DuePlan} {context : Context} {today : Date} :
    (∃ date, plan.dueDate context today = .ok date) ↔
      ∃ date, plan.unboundedDate context today = .ok date := by
  rw [dueDate]
  cases plan.unboundedDate context today <;> simp [Outcome.fail]

namespace Rule

variable {rule : Rule} {settings : EngineSettings} {context : Context}
  (contemporary : context.IsContemporary)

theorem exists_dueFor_iff (planned : settings.smartDates = true) (soon : settings.dueInDays ≤ 10000)
    {template : Template} {today : Date} (current : today.IsContemporary) :
    (∃ due, dueFor template settings context today = .ok due) ↔ template.IsDated context today := by
  rw [dueFor, planned, Template.IsDated]
  cases template.due with
  | none =>
    obtain ⟨later, moved, _⟩ := current.exists_addDays settings.dueInDays (by omega) (by omega)
    constructor
    · rintro _ plan absurd
      cases absurd
    · intro _
      rw [moved]
      exact ⟨_, rfl⟩
  | some plan =>
    simp only [Option.some.injEq, forall_eq', ← DuePlan.exists_dueDate_iff]
    cases plan.dueDate context today <;> simp [bind, Except.bind, pure, Except.pure]

include contemporary

/-- A rule makes a task exactly if its template finds a date, as long as its conditions can be told. -/
theorem exists_task_iff (told : (Condition.describeAll? rule.conditions).isSome = true)
    (planned : settings.smartDates = true) (soon : settings.dueInDays ≤ 10000)
    {today : Date} (current : today.IsContemporary) :
    (∃ task, rule.task settings context today = .ok task) ↔
      (rule.templateFor settings context).IsDated context today := by
  obtain ⟨title, titled⟩ := contemporary.exists_render (rule.templateFor settings context).title today
  obtain ⟨description, described⟩ :=
    contemporary.exists_render (rule.templateFor settings context).description today
  obtain ⟨values, replaced⟩ :=
    contemporary.exists_placeholderValues (rule.templateFor settings context) today
  obtain ⟨conditions, words⟩ := Option.isSome_iff_exists.mp told
  rw [← exists_dueFor_iff planned soon current, Rule.task]
  simp only [titled, described, replaced, words, Outcome.ofPrinted]
  cases dueFor (rule.templateFor settings context) settings context today <;>
    simp [bind, Except.bind, pure, Except.pure]

/-- A rule leaves no error exactly if its conditions are not met or its template finds a date. -/
theorem error?_eq_none_iff (told : (Condition.describeAll? rule.conditions).isSome = true) (planned : settings.smartDates = true) (soon : settings.dueInDays ≤ 10000)
    {now : Timestamp} (current : now.date.IsContemporary) :
    rule.error? settings context now = none ↔
      (Condition.allHold now context.toValue rule.conditions = true →
        (rule.templateFor settings context).IsDated context now.date) := by
  rw [← exists_task_iff contemporary told planned soon current, error?, judge, judgement, Condition.allHold]
  cases (Condition.evaluateAll now context.toValue rule.conditions).all (·.passed) with
  | false => simp [pure, Except.pure]
  | true =>
    cases rule.task settings context now.date <;>
      simp [bind, Except.bind, pure, Except.pure, Outcome.fail]

end Rule

end Obligations
