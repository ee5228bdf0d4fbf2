import Obligations.Proofs.Calendar.Iso
import Obligations.Proofs.Offset.Text
import Obligations.Proofs.Text.Cutting
import Obligations.Proofs.Value.Order
import Obligations.Subject.Loose

/-! # Printed dates and timestamps as values

A date or a timestamp that has been printed in ISO form is a text, and white space may have got around it. Both readers
of such texts take it for what it was printed from, one for its day and the other for its moment. So it is equal to the
same dates and timestamps, and has the same place among them.
-/

namespace Obligations

open Obligations.Calendar Obligations.Text

theorem Calendar.IsIso.isBlank_eq {c : Char} (iso : IsIso c) : isBlank c = false := by
  rcases iso with digit | mark
  · exact isBlank_of_isDigit digit
  · revert c
    decide

namespace Value

section Reading

variable {before after : String} {chars : List Char}

/-- A text in ISO form has no letter that stands for universal time. -/
theorem flatMap_zulu (iso : ∀ c ∈ chars, IsIso c) :
    (chars.flatMap fun c => if c = 'Z' then "+00:00".toList else [c]) = chars := by
  induction chars with
  | nil => rfl
  | cons c rest ih =>
    rw [List.forall_mem_cons] at iso
    rw [List.flatMap_cons, ih iso.2, if_neg iso.1.ne_zulu, List.singleton_append]

/-- A timestamp is read from its printed form with white space around it. -/
theorem readStamp?_around (front : IsBlank before) (back : IsBlank after) (some : chars ≠ [])
    (iso : ∀ c ∈ chars, IsIso c) {moment : Timestamp} (read : Timestamp.ofIso? chars = .some moment) :
    readStamp? (before ++ String.ofList chars ++ after) = .some moment.withoutOffset := by
  have trimmed := trimChars_around front back some fun c listed => (iso c listed).isBlank_eq
  rw [readStamp?, trimmed]
  simp only [flatMap_zulu iso, read]

/-- A date is read from the start of a printed form with white space around it. -/
theorem looseDate?_around (front : IsBlank before) (back : IsBlank after) (date : Date) (rest : List Char)
    (iso : ∀ c ∈ date.isoChars ++ rest, IsIso c) :
    (text (before ++ String.ofList (date.isoChars ++ rest) ++ after)).looseDate? = some date := by
  have some : date.isoChars ++ rest ≠ [] := fun none => by
    have length := date.length_isoChars
    rw [(List.append_eq_nil_iff.mp none).1] at length
    cases length
  have trimmed := trimChars_around front back some fun c listed => (iso c listed).isBlank_eq
  change Date.ofIso? ((trimChars _).take 10) = _
  rw [trimmed, List.take_left' date.length_isoChars, ofIso?_isoChars]

end Reading

section Comparing

variable {left right other : Value} {moment : Timestamp}

/-- Whether two values are to every date and timestamp what the other one is: equal or not, on either side, and before
or behind it. -/
structure AreAlikeInTime (left right : Value) : Prop where
  agrees (other : Value) (dated : other.isTemporal = true) : left.agrees other = right.agrees other
  agreed (other : Value) (dated : other.isTemporal = true) : other.agrees left = other.agrees right
  order (other : Value) (dated : other.isTemporal = true) :
    ∃ place, left.order? other = some place ∧ right.order? other = some place
  ordered (other : Value) (dated : other.isTemporal = true) :
    ∃ place, other.order? left = some place ∧ other.order? right = some place

theorem isSingle_of_toStamp? (stands : left.toStamp? = some moment) : left.IsSingle := by
  cases left with
  | float | list | map => cases stands
  | _ => trivial

/-- What stands for a moment agrees with a date or a timestamp exactly if this is the moment. -/
theorem agrees_iff_areMoment (stands : left.toStamp? = some moment) (dated : right.isTemporal = true) :
    left.agrees right = true ↔ AreMoment left right := by
  have unmarked : right.mark? = none := by cases right <;> first | rfl | cases dated
  rw [agrees_iff_of_isSingle (isSingle_of_toStamp? stands), or_iff_right]
  rintro ⟨mark, -, own⟩
  cases unmarked.symm.trans own

/-- Values that stand for one moment are alike to all dates and timestamps. -/
theorem AreAlikeInTime.of_toStamp? (first : left.toStamp? = some moment) (second : right.toStamp? = some moment) :
    AreAlikeInTime left right := by
  have order (other : Value) (dated : other.isTemporal = true) :
      ∃ place, left.order? other = some place ∧ right.order? other = some place := by
    obtain ⟨time, own⟩ : ∃ time, other.toStamp? = some time := by cases other <;> first | exact ⟨_, rfl⟩ | cases dated
    rw [order?_eq, order?_eq, momentOrder?_of_stamps (.inr dated) first own,
      momentOrder?_of_stamps (.inr dated) second own]
    exact ⟨_, rfl, rfl⟩
  refine ⟨fun other dated => ?_, fun other dated => ?_, order, fun other dated => ?_⟩
  · rw [Bool.eq_iff_iff, agrees_iff_areMoment first dated, agrees_iff_areMoment second dated, areMoment_iff,
      areMoment_iff, first, second, dated, or_iff_right_of_imp fun _ => rfl, or_iff_right_of_imp fun _ => rfl]
  · rw [Bool.eq_iff_iff, agrees_iff_of_isDated dated, agrees_iff_of_isDated dated, areMoment_iff, areMoment_iff, first,
      second, dated, or_iff_left_of_imp fun _ => rfl, or_iff_left_of_imp fun _ => rfl]
  · obtain ⟨place, own, alike⟩ := order other dated
    rw [order?_eq_swap left, order?_eq_swap right, own, alike]
    exact ⟨_, rfl, rfl⟩

end Comparing

/-- What is read of a printed date or timestamp, with white space around it. One reader gives back the date, and the
date of the timestamp; the other one gives back the midnight of the date, and the timestamp without what is known of its
clock. To dates and timestamps the printed form is what the original is. -/
theorem printed_isRead {before after : String} (front : IsBlank before) (back : IsBlank after) :
    (∀ date : Date,
      let printed := text (before ++ date.iso ++ after)
      printed.looseDate? = some date ∧ printed.toStamp? = some (.midnight date) ∧
        AreAlikeInTime printed (.date date)) ∧
    ∀ time : Timestamp, time.IsNear →
      let printed := text (before ++ time.iso ++ after)
      printed.looseDate? = some time.date ∧ printed.toStamp? = some time.withoutOffset ∧
        AreAlikeInTime printed (.stamp time) := by
  constructor
  · intro date printed
    have stands : printed.toStamp? = some (.midnight date) :=
      readStamp?_around front back (by simp [Date.isoChars]) (fun c => isIso_isoChars date) (ofIso?_date date)
    refine ⟨?_, stands, .of_toStamp? stands rfl⟩
    have read := looseDate?_around front back date [] (by simpa using fun c => isIso_isoChars date)
    rwa [List.append_nil] at read
  · intro time near printed
    have stands : printed.toStamp? = some time.withoutOffset := by
      have read := readStamp?_around front back (by simp [time.toList_iso]) (fun c => isIso_of_iso) (ofIso?_iso near)
      rwa [String.ofList_toList] at read
    refine ⟨?_, stands, .of_toStamp? stands rfl⟩
    have read := looseDate?_around front back time.date _ fun c listed => isIso_of_iso (time.toList_iso ▸ listed)
    rwa [← time.toList_iso, String.ofList_toList] at read

/-- A moment before the last midnight of February, by a clock that is behind universal time by no whole seconds. -/
def leapNight : Timestamp :=
  ⟨⟨2028, 2, 29, by decide⟩, 86399000001, by decide, some (-19815500000)⟩

theorem printed_isRead_leapNight :
    let printed := text (" \n" ++ leapNight.iso ++ "\t")
    IsBlank " \n" ∧ IsBlank "\t" ∧ leapNight.IsNear ∧
      leapNight.iso = "2028-02-29T23:59:59.000001-05:30:15.500000" ∧
      printed.looseDate? = some leapNight.date ∧ printed.toStamp? = some leapNight.withoutOffset ∧
      printed.agrees (.date leapNight.date) = false ∧ (date leapNight.date).order? printed = some .lt := by
  have front : IsBlank " \n" := by decide
  have back : IsBlank "\t" := by decide
  have near : leapNight.IsNear := by
    rintro offset ⟨⟩
    decide
  obtain ⟨day, moment, alike⟩ := (printed_isRead front back).2 leapNight near
  obtain ⟨place, behind, ofStamp⟩ := alike.ordered (.date leapNight.date) rfl
  exact ⟨front, back, near, by decide +kernel, day, moment,
    (alike.agrees (.date leapNight.date) rfl).trans (by decide +kernel),
    behind.trans (ofStamp.symm.trans (by decide +kernel))⟩

end Value

end Obligations
