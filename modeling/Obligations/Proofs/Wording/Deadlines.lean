import Obligations.Proofs.Calendar.Arithmetic
import Obligations.Proofs.Wording.Substitution
import Obligations.Subject.Form

/-! # Which subjects have texts

Everything that a text can name is worked out before the text is looked at, two deadlines with it: ten days after the
last move and ten days after the start of work. So whether a subject has a text does not depend on what the text asks
for. As long as the calendar has both days, every text comes out, and one without placeholders as it is. If it has not,
no text does, not even one that asks for nothing.
-/

namespace Obligations

open Obligations.Calendar

namespace Calendar.Date

/-- The last day behind which the calendar has ten more. -/
def lastWithTen : Date := ⟨9999, 12, 21, by decide⟩

theorem le_lastWithTen_iff {date : Date} : date ≤ lastWithTen ↔ date.ordinal + 10 ≤ lastOrdinal := by
  rw [le_iff_ordinal_le, show lastWithTen.ordinal = 3652049 from rfl, lastOrdinal]
  omega

/-- As many days as a span can have lead to a day, or out of the calendar. -/
theorem addDays_cases (date : Date) (days : Int) (low : -Span.dayLimit ≤ days) (high : days ≤ Span.dayLimit) :
    (∃ later, date.addDays days = .ok later) ∨ date.addDays days = .error .outsideCalendar := by
  have span : Span.ofDays days = .ok ⟨days * microsPerDay⟩ := by
    rw [Span.dayLimit] at low high
    rw [Span.ofDays_eq, Span.dayLimit, wordBound, if_neg (by omega), if_neg (by omega)]
  rw [addDays, span]
  change (∃ later, date.addSpan _ = .ok later) ∨ date.addSpan _ = .error .outsideCalendar
  rw [addSpan]
  cases date.addDays? (Span.days ⟨days * microsPerDay⟩) with
  | none => exact .inr rfl
  | some later => exact .inl ⟨later, rfl⟩

end Calendar.Date

namespace Wording

/-- Whether the calendar has the day ten days after a date, where there is a date. -/
def HasDeadline (date : Option Date) : Prop :=
  ∀ day, date = some day → day ≤ Date.lastWithTen

/-- Whether the calendar has the deadlines of a subject. -/
def HasDeadlines (context : Context) : Prop :=
  HasDeadline context.residence.lastMoved ∧ HasDeadline context.dates.employmentStart

/-- A deadline is a text where the calendar has it, and else leads out of the calendar. -/
theorem tenDaysAfter_cases (date : Option Date) :
    HasDeadline date ∧ (∃ text, tenDaysAfter date = .ok text) ∨
      ¬ HasDeadline date ∧ tenDaysAfter date = .error .outsideCalendar := by
  cases date with
  | none => exact .inl ⟨by simp [HasDeadline], "", rfl⟩
  | some day =>
    simp only [HasDeadline, Option.some.injEq, forall_eq', Date.le_lastWithTen_iff, tenDaysAfter]
    have inside : (∃ later, day.addDays 10 = .ok later) ↔ day.ordinal + 10 ≤ Date.lastOrdinal :=
      Date.exists_addDays_iff.trans (by omega)
    rcases day.addDays_cases 10 (by decide) (by decide) with ⟨later, moved⟩ | outside
    · exact .inl ⟨inside.mp ⟨later, moved⟩, later.longText, by rw [moved]; rfl⟩
    · refine .inr ⟨fun reached => ?_, by rw [outside]; rfl⟩
      obtain ⟨later, moved⟩ := inside.mpr reached
      rw [outside] at moved
      cases moved

/-- All that texts can name is known where the calendar has the deadlines of a subject; no other date matters. -/
theorem vocabulary_cases (context : Context) (today : Date) :
    HasDeadlines context ∧ (∃ values, vocabulary context today = .ok values) ∨
      ¬ HasDeadlines context ∧ vocabulary context today = .error .outsideCalendar := by
  rw [HasDeadlines, vocabulary, figures]
  rcases tenDaysAfter_cases context.residence.lastMoved with ⟨moved, address, addressed⟩ | ⟨moved, outside⟩
  case inr => exact .inr ⟨fun both => moved both.1, by rw [outside]; rfl⟩
  rcases tenDaysAfter_cases context.dates.employmentStart with ⟨started, job, reported⟩ | ⟨started, outside⟩
  case inr => exact .inr ⟨fun both => started both.2, by rw [addressed, outside]; rfl⟩
  exact .inl ⟨⟨moved, started⟩, _, by rw [addressed, reported]; rfl⟩

section Rendering

variable {content : String} {context : Context} {today : Date}

/-- The failure of a subject that has no texts. -/
def withoutDeadlines (context : Context) : Failure :=
  .of .template "Template rendering failed: date value out of range" { subjectId := some context.subjectId }

theorem render_of_not_hasDeadlines (asks : content ≠ "") (without : ¬ HasDeadlines context) :
    render content context today = .fail (withoutDeadlines context) := by
  have failed := ((vocabulary_cases context today).resolve_left (without ·.1)).2
  rw [render, if_neg (by simpa using asks), failed]
  rfl

theorem exists_render (today : Date) (has : content = "" ∨ HasDeadlines context) :
    ∃ values, render content context today = .ok (fillIn values content) := by
  rcases has with rfl | has
  · exact ⟨.null, by simp [render, fillIn, segments]⟩
  · obtain ⟨values, built⟩ := ((vocabulary_cases context today).resolve_right (·.1 has)).2
    exact ⟨_, render_of_vocabulary built content⟩

/-- A subject without deadlines gets no tasks. -/
theorem task_ne_ok {rule : Rule} {settings : EngineSettings} (asks : (rule.templateFor settings context).title ≠ "")
    (without : ¬ HasDeadlines context) (task : Task) : rule.task settings context today ≠ .ok task := by
  intro made
  obtain ⟨due, _, made⟩ := Outcome.bind_eq_ok.mp made
  obtain ⟨title, titled, -⟩ := Outcome.bind_eq_ok.mp made
  rw [render_of_not_hasDeadlines asks without] at titled
  cases titled

end Rendering

end Wording

end Obligations
