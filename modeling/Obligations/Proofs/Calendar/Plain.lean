import Obligations.Document.Plain
import Obligations.Proofs.Number.Digits
import Obligations.Schema.Moment

/-! # Dates and timestamps in documents

A date that has been written into a document is read from it again. So is a timestamp whose clock is ahead of
universal time by whole minutes and less than a day, and no other timestamp is ever read.
-/

namespace Obligations.Calendar

open Obligations.Number Obligations.Schema Obligations.Text

variable {rest : List Char}

theorem Date.parts_lt (date : Date) : date.year < 10 ^ 4 ∧ date.month < 10 ^ 2 ∧ date.day < 10 ^ 2 := by
  obtain ⟨⟨-, y⟩, ⟨-, m⟩, -, d⟩ := date.valid
  have short : daysInMonth date.year date.month ≤ 31 := by
    rw [daysInMonth]
    split <;> (try split) <;> omega
  exact ⟨Nat.lt_succ_of_le y, by omega, by omega⟩

theorem takeDate?_isoChars (date : Date) (rest : List Char) :
    takeDate? (date.isoChars ++ rest) = some (date, rest) := by
  obtain ⟨year, month, day⟩ := date.parts_lt
  simp [takeDate?, Date.isoChars, takeNumber?_padded year, takeNumber?_padded month, takeNumber?_padded day,
    stripStart?]

/-- A date is read from the text that stands for it in documents. -/
theorem dateOfText_iso (date : Date) : Reader.dateOfText date.iso = .ok date := by
  have taken := takeDate?_isoChars date []
  rw [List.append_nil] at taken
  simp [Reader.dateOfText, Date.iso, taken]

/-- Whether a clock is ahead of universal time, or behind it, by whole minutes and less than a day. -/
def IsZone (offset : Int) : Prop :=
  ∃ minutes < 24 * 60, offset.natAbs = minutes * 60 * microsPerSecond

/-- The distance of a clock from universal time behind its sign. -/
def zoneBehindSign? (negative : Bool) (chars : List Char) : Option (Option Int) := do
  let (hours, afterHours) ← takeNumber? 2 chars
  let (minutes, after) ← takeNumber? 2 ((stripStart? [':'] afterHours).getD afterHours)
  let seconds := hours * 3600 + minutes * 60
  if after.isEmpty && minutes < 60 && seconds < 86400 then
    return some (withSign negative (seconds * microsPerSecond))
  else none

theorem readZone?_cons {sign : Char} (more : rest ≠ []) : readZone? (sign :: rest) =
    if sign == '+' then zoneBehindSign? false rest
    else if sign == '-' || sign == '−' then zoneBehindSign? true rest else none := by
  obtain ⟨c, tail, rfl⟩ := List.exists_cons_of_ne_nil more
  rfl

theorem readZone?_zoneChars {offset : Int} (zone : IsZone offset) :
    readZone? (zoneChars offset) = some (some offset) := by
  obtain ⟨minutes, bound, size⟩ := zone
  have seconds : offset.natAbs / microsPerSecond = minutes * 60 := by
    rw [size, Nat.mul_div_cancel _ (by decide)]
  rw [zoneChars, seconds]
  -- universal time is a letter instead of a sign with hours and minutes
  by_cases none : minutes = 0
  · have zero : offset = 0 := by
      rw [none] at size
      omega
    rw [none, zero]
    rfl
  · have hours : minutes * 60 / 3600 = minutes / 60 := by omega
    have within : minutes * 60 / 60 % 60 = minutes % 60 := by omega
    have whole : (minutes / 60 * 3600 + minutes % 60 * 60) = minutes * 60 := by omega
    have taken := takeNumber?_padded (show minutes % 60 < 10 ^ 2 by omega) (by decide) []
    rw [List.append_nil] at taken
    have hour : minutes / 60 < 10 ^ 2 := by omega
    rw [if_neg (by omega), hours, within, List.cons_append, readZone?_cons (by simp)]
    have signed : withSign (decide (offset < 0)) (minutes * 60 * microsPerSecond) = offset := by
      rw [← size, withSign]
      split
      next behind => rw [decide_eq_true_eq] at behind; omega
      next ahead => rw [decide_eq_true_eq] at ahead; omega
    have short : minutes * 60 < 86400 := by omega
    have part : minutes % 60 < 60 := Nat.mod_lt _ (by decide)
    by_cases behind : offset < 0 <;>
      simpa [behind, zoneBehindSign?, takeNumber?_padded hour, stripStart?, taken, whole, short, part]
        using signed

/-- What follows the fraction of a second never begins like a part of it. -/
theorem takeSeconds?_append {second fraction : Nat} (short : second < 60)
    (small : fraction < microsPerSecond) {zone : List Char}
    (apart : ∀ c tail, zone = c :: tail → c.isDigit = false ∧ c ≠ '.' ∧ c ≠ ',') :
    takeSeconds? (':' :: (padded 2 second ++
      ((if fraction = 0 then [] else '.' :: padded 6 fraction) ++ zone))) = some (second, fraction, zone) := by
  rw [takeSeconds?, takeNumber?_padded (by omega) (by decide)]
  by_cases none : fraction = 0
  · cases zone with
    | nil => simp [none]
    | cons c tail =>
      obtain ⟨-, point, comma⟩ := apart c tail rfl
      simp [point, comma, none]
  · have digits : (padded 6 fraction).length = 6 := length_padded small (by decide)
    have taken : (padded 6 fraction ++ zone).takeWhile Char.isDigit = padded 6 fraction := by
      rw [List.takeWhile_append_of_pos fun c => isDigit_padded]
      cases zone with
      | nil => rw [List.takeWhile_nil, List.append_nil]
      | cons c tail => simp [apart c tail rfl]
    have value : digitsValue? (padded 6 fraction) = some fraction := by
      rw [digitsValue?_of_isDigit fun c => isDigit_padded, ofDigitChars_padded]
    have whole : (padded 6 fraction).take 6 = padded 6 fraction :=
      List.take_of_length_le (Nat.le_of_eq digits)
    have left : (padded 6 fraction ++ zone).drop 6 = zone := List.drop_left' digits
    have solid : (padded 6 fraction).isEmpty = false := by
      rw [List.isEmpty_eq_false_iff]
      exact fun empty => by simp [empty] at digits
    have scaled : fraction * Nat.pow 10 0 = fraction := Nat.mul_one fraction
    simp only [if_neg none, Option.bind_eq_bind, Option.bind_some, List.cons_append, BEq.rfl, Bool.true_or,
      if_true, taken, solid, Bool.false_eq_true, if_false, whole, value, digits, left, Nat.sub_self, scaled]
    rfl

/-- Whether a timestamp is one that documents can tell. -/
def Timestamp.IsPlain (stamp : Timestamp) : Prop :=
  ∀ offset, stamp.offset = some offset → IsZone offset

theorem readZone?_offset {stamp : Timestamp} (plain : stamp.IsPlain) :
    readZone? ((stamp.offset.map zoneChars).getD []) = some stamp.offset := by
  cases offset : stamp.offset with
  | none => rfl
  | some distance => exact readZone?_zoneChars (plain distance offset)

theorem apart_zoneChars {offset : Int} {c : Char} {tail : List Char}
    (begins : zoneChars offset = c :: tail) : c.isDigit = false ∧ c ≠ '.' ∧ c ≠ ',' := by
  have first : c = 'Z' ∨ c = '-' ∨ c = '+' := by
    rw [zoneChars] at begins
    split at begins
    next => exact .inl (List.cons.inj begins).1.symm
    next =>
      rw [List.cons_append] at begins
      have same := (List.cons.inj begins).1
      split at same
      · exact .inr (.inl same.symm)
      · exact .inr (.inr same.symm)
  rcases first with rfl | rfl | rfl <;> decide

/-- A moment is read part by part. -/
theorem readMoment?_of_parts {chars clock minutePart afterMinute zonePart : List Char} {date : Date}
    {hour minute second micro : Nat} {offset : Option Int} {stamp : Timestamp}
    (day : takeDate? chars = some (date, 'T' :: clock))
    (hours : takeNumber? 2 clock = some (hour, ':' :: minutePart))
    (minutes : takeNumber? 2 minutePart = some (minute, afterMinute))
    (seconds : takeSeconds? afterMinute = some (second, micro, zonePart))
    (zone : readZone? zonePart = some offset)
    (whole : withClock? date ⟨hour, minute, second, micro, true⟩ offset = some stamp) :
    readMoment? chars = some stamp := by
  have separator : ¬['T', 't', ' ', '_'].all (· != 'T') = true := by decide
  exact Option.bind_eq_some_iff.mpr ⟨_, day, (if_neg separator).trans <|
    Option.bind_eq_some_iff.mpr ⟨_, hours, Option.bind_eq_some_iff.mpr ⟨_, rfl,
      Option.bind_eq_some_iff.mpr ⟨_, minutes, Option.bind_eq_some_iff.mpr ⟨_, seconds,
        Option.bind_eq_some_iff.mpr ⟨_, zone, whole⟩⟩⟩⟩⟩⟩

theorem Timestamp.seconds_lt (stamp : Timestamp) : stamp.micros / microsPerSecond < 86400 :=
  Nat.div_lt_of_lt_mul stamp.micros_lt

/-- The time of day is put together again from its parts. -/
theorem withClock?_parts (stamp : Timestamp) :
    withClock? stamp.date ⟨stamp.micros / microsPerSecond / 3600, stamp.micros / microsPerSecond / 60 % 60,
      stamp.micros / microsPerSecond % 60, stamp.micros % microsPerSecond, true⟩ stamp.offset = some stamp := by
  obtain ⟨date, micros, bound, offset⟩ := stamp
  have within : micros / microsPerSecond < 86400 := Nat.div_lt_of_lt_mul bound
  have whole : ((micros / microsPerSecond / 3600 * 60 + micros / microsPerSecond / 60 % 60) * 60 +
      micros / microsPerSecond % 60) = micros / microsPerSecond := by
    omega
  have hour : micros / microsPerSecond / 3600 < 24 := by omega
  have minute : micros / microsPerSecond / 60 % 60 < 60 := by omega
  have second : micros / microsPerSecond % 60 < 60 := by omega
  have total := Nat.div_add_mod' micros microsPerSecond
  simp [withClock?, whole, total, bound, hour, minute, second]

theorem readMoment?_plain {stamp : Timestamp} (plain : stamp.IsPlain) :
    readMoment? (stamp.date.isoChars ++ 'T' :: clockChars stamp.micros ++
      (stamp.offset.map zoneChars).getD []) = some stamp := by
  have apart : ∀ c tail, (stamp.offset.map zoneChars).getD [] = c :: tail →
      c.isDigit = false ∧ c ≠ '.' ∧ c ≠ ',' := by
    intro c tail begins
    cases offset : stamp.offset with
    | none => simp [offset] at begins
    | some distance =>
      have sign : zoneChars distance = c :: tail := by simpa [offset] using begins
      exact apart_zoneChars sign
  have within := stamp.seconds_lt
  have hour : stamp.micros / microsPerSecond / 3600 < 10 ^ 2 := by omega
  have minute : stamp.micros / microsPerSecond / 60 % 60 < 10 ^ 2 := by omega
  have second : stamp.micros / microsPerSecond % 60 < 60 := by omega
  have fraction : stamp.micros % microsPerSecond < microsPerSecond := Nat.mod_lt _ (by decide)
  rw [clockChars]
  simp only [List.append_assoc, List.cons_append]
  exact readMoment?_of_parts (takeDate?_isoChars _ _) (takeNumber?_padded hour (by decide) _)
    (takeNumber?_padded minute (by decide) _) (takeSeconds?_append second fraction apart)
    (readZone?_offset plain) (withClock?_parts stamp)

/-- A timestamp is read from the text that stands for it in documents. -/
theorem timestampOfText_plain {stamp : Timestamp} (plain : stamp.IsPlain) :
    Reader.timestampOfText stamp.plain = .ok stamp := by
  rw [Reader.timestampOfText, Timestamp.plain, String.toList_ofList, readMoment?_plain plain, List.append_assoc,
    takeDate?_isoChars]
  rfl

theorem natAbs_withSign (negative : Bool) (n : Nat) : (withSign negative n).natAbs = n := by
  cases negative
  · exact Int.natAbs_natCast n
  · exact Int.natAbs_neg n

theorem isZone_zero : IsZone 0 :=
  ⟨0, by decide, rfl⟩

theorem isZone_of_zoneBehindSign? {negative : Bool} {chars : List Char} {offset : Int}
    (read : zoneBehindSign? negative chars = some (some offset)) : IsZone offset := by
  simp only [zoneBehindSign?, bind, Option.bind_eq_some_iff, Prod.exists] at read
  obtain ⟨hours, afterHours, -, minutes, after, -, read⟩ := read
  obtain ⟨short, same⟩ := Option.ite_none_right_eq_some.mp read
  simp only [Bool.and_eq_true, decide_eq_true_eq] at short
  cases same
  refine ⟨hours * 60 + minutes, by omega, ?_⟩
  have whole : hours * 3600 + minutes * 60 = (hours * 60 + minutes) * 60 := by omega
  rw [natAbs_withSign, whole]

theorem isZone_of_readZone? {chars : List Char} {offset : Int} (read : readZone? chars = some (some offset)) :
    IsZone offset := by
  match chars with
  | [] => cases read
  | [c] =>
    obtain ⟨-, same⟩ := Option.ite_none_right_eq_some.mp read
    cases same
    exact isZone_zero
  | sign :: c :: tail =>
    rw [readZone?_cons (List.cons_ne_nil c tail)] at read
    split at read
    · exact isZone_of_zoneBehindSign? read
    · obtain ⟨-, read⟩ := Option.ite_none_right_eq_some.mp read
      exact isZone_of_zoneBehindSign? read

theorem isPlain_midnight (date : Date) : (Timestamp.midnight date).IsPlain := by
  rintro _ ⟨⟩

theorem isPlain_of_momentOfMicros? {micros : Int} {stamp : Timestamp}
    (found : momentOfMicros? micros = some stamp) : stamp.IsPlain := by
  obtain ⟨date, -, rfl⟩ := Option.map_eq_some_iff.mp found
  rintro _ ⟨⟩
  exact isZone_zero

theorem isPlain_of_momentOfInt? {n : Int} {stamp : Timestamp} (found : momentOfInt? n = some stamp) :
    stamp.IsPlain := by
  rw [momentOfInt?] at found
  split at found <;> exact isPlain_of_momentOfMicros? found

theorem isPlain_of_momentOfFloat? {x : Binary64} {stamp : Timestamp} (found : momentOfFloat? x = some stamp) :
    stamp.IsPlain := by
  cases x with
  | finite negative units => exact isPlain_of_momentOfMicros? found
  | _ => cases found

theorem isPlain_of_momentOfNumeral? {chars : List Char} {stamp : Timestamp}
    (found : momentOfNumeral? chars = some stamp) : stamp.IsPlain := by
  rw [momentOfNumeral?] at found
  dsimp only at found
  split at found
  next =>
    obtain ⟨-, found⟩ := Option.ite_none_left_eq_some.mp found
    obtain ⟨n, -, found⟩ := Option.bind_eq_some_iff.mp found
    exact isPlain_of_momentOfInt? found
  next =>
    obtain ⟨-, found⟩ := Option.ite_none_left_eq_some.mp found
    obtain ⟨x, -, found⟩ := Option.bind_eq_some_iff.mp found
    exact isPlain_of_momentOfFloat? found
  next => cases found

theorem isPlain_of_readMoment? {chars : List Char} {stamp : Timestamp}
    (found : readMoment? chars = some stamp) : stamp.IsPlain := by
  obtain ⟨⟨date, afterDate⟩, -, found⟩ := Option.bind_eq_some_iff.mp found
  dsimp only at found
  split at found
  next => cases found
  next separator clock =>
    obtain ⟨-, found⟩ := Option.ite_none_left_eq_some.mp found
    obtain ⟨⟨hour, _⟩, -, found⟩ := Option.bind_eq_some_iff.mp found
    obtain ⟨_, -, found⟩ := Option.bind_eq_some_iff.mp found
    obtain ⟨⟨minute, _⟩, -, found⟩ := Option.bind_eq_some_iff.mp found
    obtain ⟨⟨second, micro, zonePart⟩, -, found⟩ := Option.bind_eq_some_iff.mp found
    obtain ⟨zone, told, found⟩ := Option.bind_eq_some_iff.mp found
    have offset : stamp.offset = zone := by
      obtain ⟨_, found⟩ := Option.dite_none_right_eq_some.mp found
      obtain ⟨-, found⟩ := Option.ite_none_right_eq_some.mp found
      cases found
      rfl
    intro distance same
    rw [offset] at same
    cases same
    exact isZone_of_readZone? told

/-- A timestamp in text is one that documents can tell. -/
theorem isPlain_of_timestampOfText {content : String} {stamp : Timestamp}
    (read : Reader.timestampOfText content = .ok stamp) : stamp.IsPlain := by
  rw [Reader.timestampOfText] at read
  split at read
  next date _ =>
    cases read
    exact isPlain_midnight date
  next =>
    split at read
    next moment found =>
      cases read
      rcases Option.or_eq_some_iff.mp found with written | ⟨-, counted⟩
      · exact isPlain_of_readMoment? written
      · exact isPlain_of_momentOfNumeral? counted
    next => cases read

theorem isPlain_of_timestamp {value : Value} {stamp : Timestamp} (given : ∀ moment, value ≠ .stamp moment)
    (read : Reader.timestamp value = .ok stamp) : stamp.IsPlain := by
  cases value with
  | stamp moment => exact absurd rfl (given moment)
  | date d =>
    cases read
    exact isPlain_midnight d
  | text | visa | phase => exact isPlain_of_timestampOfText read
  | int n =>
    rw [Reader.timestamp] at read
    split at read
    next moment found =>
      cases read
      exact isPlain_of_momentOfInt? found
    next => cases read
  | float x =>
    rw [Reader.timestamp] at read
    split at read
    next moment found =>
      cases read
      exact isPlain_of_momentOfFloat? found
    next => cases read
  | null | bool | list | map => cases read

end Obligations.Calendar
