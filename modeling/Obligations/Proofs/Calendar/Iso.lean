import Mathlib.Data.List.TakeDrop
import Obligations.Proofs.Calendar.Plain
import Obligations.Proofs.Text.Cutting

/-! # Printed dates and timestamps

What is printed in ISO form is read as what it was printed from: a date from its own text and from the start of any
text that begins with it, and a timestamp with its microseconds and with the distance of its clock from universal time,
whatever this is as long as it is less than a day.
-/

namespace Obligations.Calendar

open Obligations.Number Obligations.Text

section Characters

/-- The characters of dates and timestamps in ISO form. -/
def IsIso (c : Char) : Prop :=
  c.isDigit = true ∨ c ∈ ['-', ':', '.', '+', 'T']

variable {c : Char} {chars : List Char}

theorem IsIso.toNat_lt (iso : IsIso c) : c.toNat < 128 := by
  rcases iso with digit | mark
  · exact Nat.lt_of_le_of_lt (toNat_bounds_of_isDigit digit).2 (by decide)
  · revert c
    decide

theorem IsIso.ne_zulu (iso : IsIso c) : c ≠ 'Z' := by
  rintro rfl
  rcases iso with digit | mark
  · cases digit
  · revert mark
    decide

/-- A text of plain characters takes one byte for each. -/
theorem encodedLength_of_plain (plain : ∀ c ∈ chars, c.toNat < 128) : encodedLength chars = chars.length := by
  rw [encodedLength, ← Nat.zero_add chars.length]
  generalize 0 = start
  induction chars generalizing start with
  | nil => rfl
  | cons c rest ih =>
    rw [List.forall_mem_cons] at plain
    have one : c.utf8Size = 1 := by
      rw [Char.utf8Size_eq_one_iff, UInt32.le_iff_toNat_le]
      exact Nat.le_of_lt_succ plain.1
    rw [List.foldl_cons, one, ih plain.2, List.length_cons]
    omega

end Characters

section Dates

variable (date : Date) (rest : List Char)

theorem Date.length_isoChars : date.isoChars.length = 10 := by
  obtain ⟨year, month, day⟩ := date.parts_lt
  simp [Date.isoChars, length_padded year, length_padded month, length_padded day]

theorem isIso_of_padded {width n : Nat} {c : Char} (listed : c ∈ padded width n) : IsIso c :=
  .inl (isDigit_padded listed)

theorem isIso_isoChars {c : Char} (listed : c ∈ date.isoChars) : IsIso c := by
  simp only [Date.isoChars, List.append_assoc, List.cons_append, List.mem_append, List.mem_cons] at listed
  rcases listed with digit | rfl | digit | rfl | digit
  · exact isIso_of_padded digit
  · exact .inr (by decide)
  · exact isIso_of_padded digit
  · exact .inr (by decide)
  · exact isIso_of_padded digit

/-- A number that has been filled up begins with a digit. -/
theorem exists_padded (width n : Nat) : ∃ c tail, padded width n = c :: tail ∧ c.isDigit = true := by
  obtain ⟨c, tail, same⟩ := List.exists_cons_of_ne_nil (l := padded width n) (by simp [padded, digitsOf_ne_nil])
  exact ⟨c, tail, same, isDigit_padded (same ▸ List.mem_cons_self)⟩

/-- A date is read from the start of a text. -/
theorem readDatePart?_isoChars (length : Nat) : readDatePart? length (date.isoChars ++ rest) = some date := by
  obtain ⟨year, month, day⟩ := date.parts_lt
  obtain ⟨c, tail, starts, digit⟩ := exists_padded 2 date.month
  have months := takeNumber?_padded month (by decide) ('-' :: (padded 2 date.day ++ rest))
  rw [starts] at months
  have years := takeNumber?_padded year (by decide) ('-' :: (c :: (tail ++ '-' :: (padded 2 date.day ++ rest))))
  simp only [readDatePart?, Date.isoChars, List.append_assoc, List.cons_append, starts, years, Option.bind_eq_bind,
    Option.bind_some]
  split
  next week begins =>
    rw [(List.cons.inj begins).1] at digit
    cases digit
  next =>
    simp only [List.cons_append] at months
    simp [months, takeNumber?_padded day, stripStart?]

/-- The date part of a text that begins with a date is the date. -/
theorem datePartLength_isoChars (plain : ∀ c ∈ rest, c.toNat < 128) :
    datePartLength (date.isoChars ++ rest) = 10 := by
  obtain ⟨year, -, -⟩ := date.parts_lt
  obtain ⟨c, tail, starts, digit⟩ := exists_padded 2 date.month
  have length : encodedLength (date.isoChars ++ rest) = 10 + rest.length := by
    rw [encodedLength_of_plain, List.length_append, date.length_isoChars]
    intro c listed
    rcases List.mem_append.mp listed with own | behind
    · exact (isIso_isoChars date own).toNat_lt
    · exact plain c behind
  have four := length_padded year (by decide)
  have dash : (date.isoChars ++ rest)[4]? = some '-' := by
    simp [Date.isoChars, four]
  have month : (date.isoChars ++ rest)[5]? = some c := by
    simp [Date.isoChars, List.getElem?_append_right, four, starts]
  have noWeek : c ≠ 'W' := by
    rintro rfl
    cases digit
  simp [datePartLength, length, dash, month, noWeek]
  omega

/-- A date in ISO form is read as it. -/
theorem ofIso?_isoChars : Date.ofIso? date.isoChars = some date := by
  have read := readDatePart?_isoChars date [] 10
  rw [List.append_nil] at read
  rw [Date.ofIso?, encodedLength_of_plain fun c listed => (isIso_isoChars date listed).toNat_lt, date.length_isoChars]
  exact read

end Dates

section Clocks

variable {put : ClockParts → Nat → ClockParts} {others : List (ClockParts → Nat → ClockParts)} {colons : Option Bool}
  {parts : ClockParts} {after rest : List Char} {value fraction : Nat}

/-- A part of a time of day that a colon follows is read as it is, and the next part behind the colon. -/
theorem readClockFrom?_colon (next : ClockParts → Nat → ClockParts) (colon : colons.getD true = true)
    (fits : value < 10 ^ 2) (more : after ≠ []) :
    readClockFrom? (put :: next :: others) colons parts (padded 2 value ++ ':' :: after) rest =
      readClockFrom? (next :: others) (some true) (put parts value) after rest := by
  have known : colons.getD (':' == ':') = true := colon
  rw [readClockFrom?]
  simp [takeNumber?_padded fits, colon, more]

/-- The last part of a time of day may end it. -/
theorem readClockFrom?_end (fits : value < 10 ^ 2) :
    readClockFrom? (put :: others) colons parts (padded 2 value) rest =
      some { put parts value with complete := atEnd rest } := by
  have taken := takeNumber?_padded fits (by decide) []
  rw [List.append_nil] at taken
  simp [readClockFrom?, taken]

/-- A fraction of six digits is read as it is. -/
theorem readFraction?_padded (small : fraction < microsPerSecond) (parts : ClockParts) :
    readFraction? parts (padded 6 fraction) = some { parts with micro := fraction, complete := true } := by
  have taken := takeNumber?_padded (show fraction < 10 ^ 6 from small) (by decide) []
  rw [List.append_nil] at taken
  have six : min (padded 6 fraction).length 6 = 6 := by rw [length_padded small (by decide)]; rfl
  simp [readFraction?, takeFraction?, six, taken, atEnd]

/-- The fraction of a second in text, which is left out where there is none. -/
def fractionChars (fraction : Nat) : List Char :=
  if fraction = 0 then [] else '.' :: padded 6 fraction

/-- Seconds are read with the fraction behind them. What follows the whole counts only if there is none. -/
theorem readClockFrom?_fraction (fits : value < 10 ^ 2) (small : fraction < microsPerSecond)
    (fresh : (put parts value).micro = 0) :
    readClockFrom? [put] (some true) parts (padded 2 value ++ fractionChars fraction) rest =
      some { put parts value with micro := fraction, complete := fraction ≠ 0 || atEnd rest } := by
  rw [fractionChars]
  split
  next none =>
    rw [List.append_nil, readClockFrom?_end fits, none]
    simp [← fresh]
  next some =>
    obtain ⟨c, tail, starts, -⟩ := exists_padded 6 fraction
    have more : padded 6 fraction ≠ [] := by simp [starts]
    simp [readClockFrom?, takeNumber?_padded fits, more, readFraction?_padded small, some]

def clockParts (micros : Nat) (complete : Bool) : ClockParts where
  hour := micros / microsPerSecond / 3600
  minute := micros / microsPerSecond / 60 % 60
  second := micros / microsPerSecond % 60
  micro := micros % microsPerSecond
  complete := complete

/-- The microseconds of a time of day. -/
def ClockParts.total (parts : ClockParts) : Nat :=
  ((parts.hour * 60 + parts.minute) * 60 + parts.second) * microsPerSecond + parts.micro

/-- A time of day is put together again from its parts. -/
theorem total_clockParts (micros : Nat) (complete : Bool) : (clockParts micros complete).total = micros := by
  have whole : (micros / microsPerSecond / 3600 * 60 + micros / microsPerSecond / 60 % 60) * 60 +
      micros / microsPerSecond % 60 = micros / microsPerSecond := by
    omega
  rw [ClockParts.total, clockParts, whole, Nat.div_add_mod']

/-- A time of day is read part by part, and is complete if nothing follows it. -/
theorem readClock?_clockChars {micros : Nat} (bound : micros < microsPerDay) (rest : List Char) :
    ∃ complete, readClock? (clockChars micros) rest = some (clockParts micros complete) ∧
      (rest = [] → complete = true) := by
  have seconds : micros / microsPerSecond < 86400 := Nat.div_lt_of_lt_mul bound
  have hour : micros / microsPerSecond / 3600 < 10 ^ 2 := by omega
  have minute : micros / microsPerSecond / 60 % 60 < 10 ^ 2 := by omega
  have second : micros / microsPerSecond % 60 < 10 ^ 2 := by omega
  have fraction : micros % microsPerSecond < microsPerSecond := Nat.mod_lt _ (by decide)
  refine ⟨micros % microsPerSecond ≠ 0 || atEnd rest, ?_, fun none => by simp [none, atEnd]⟩
  rw [readClock?, clockChars]
  simp only [List.append_assoc, List.cons_append]
  rw [readClockFrom?_colon _ rfl hour (by simp [padded, digitsOf_ne_nil]),
    readClockFrom?_colon _ rfl minute (by simp [padded, digitsOf_ne_nil])]
  exact readClockFrom?_fraction second fraction rfl

end Clocks

section Distances

/-- The distance of a clock from universal time in text, behind its sign. -/
def distanceChars (micros : Nat) : List Char :=
  padded 2 (micros / microsPerSecond / 3600) ++ ':' :: padded 2 (micros / microsPerSecond / 60 % 60) ++
    (if micros / microsPerSecond % 60 = 0 && micros % microsPerSecond = 0 then []
     else ':' :: padded 2 (micros / microsPerSecond % 60) ++ fractionChars (micros % microsPerSecond))

theorem offsetChars_eq (offset : Int) :
    offsetChars offset = (if offset < 0 then '-' else '+') :: distanceChars offset.natAbs :=
  rfl

/-- A distance is read part by part. -/
theorem readClock?_distanceChars {micros : Nat} (bound : micros < microsPerDay) :
    readClock? (distanceChars micros) [] = some (clockParts micros true) := by
  have seconds : micros / microsPerSecond < 86400 := Nat.div_lt_of_lt_mul bound
  have hour : micros / microsPerSecond / 3600 < 10 ^ 2 := by omega
  have minute : micros / microsPerSecond / 60 % 60 < 10 ^ 2 := by omega
  have second : micros / microsPerSecond % 60 < 10 ^ 2 := by omega
  have fraction : micros % microsPerSecond < microsPerSecond := Nat.mod_lt _ (by decide)
  rw [readClock?, distanceChars]
  simp only [List.append_assoc, List.cons_append]
  rw [readClockFrom?_colon _ rfl hour (by simp [padded, digitsOf_ne_nil])]
  split
  next none =>
    rw [Bool.and_eq_true, decide_eq_true_eq, decide_eq_true_eq] at none
    rw [List.append_nil, readClockFrom?_end minute, clockParts, none.1, none.2]
    rfl
  next some =>
    rw [readClockFrom?_colon _ rfl minute (by simp [padded, digitsOf_ne_nil])]
    refine (readClockFrom?_fraction second fraction rfl).trans ?_
    simp [clockParts, atEnd]

theorem readOffset?_of_clock {negative : Bool} {chars : List Char} {parts : ClockParts}
    (read : readClock? chars [] = some parts) : readOffset? negative chars =
      if parts.complete && parts.total < microsPerDay then some (withSign negative parts.total) else none := by
  rw [readOffset?, read]
  rfl

/-- The distance of a clock is read from what stands behind its sign. -/
theorem readOffset?_distanceChars {offset : Int} (near : offset.natAbs < microsPerDay) :
    readOffset? (offset < 0) (distanceChars offset.natAbs) = some offset := by
  have signed : withSign (decide (offset < 0)) offset.natAbs = offset := by
    rw [withSign]
    split
    next behind => rw [decide_eq_true_eq] at behind; omega
    next ahead => rw [decide_eq_true_eq] at ahead; omega
  rw [readOffset?_of_clock (readClock?_distanceChars near), total_clockParts, signed, if_pos]
  rw [Bool.and_eq_true, decide_eq_true_eq]
  exact ⟨rfl, near⟩

end Distances

section Timestamps

variable {micros : Nat} {c : Char}

/-- The characters of times of day are digits, colons and points. -/
def IsOfClock (c : Char) : Prop :=
  c.isDigit = true ∨ c = ':' ∨ c = '.'

theorem IsOfClock.isIso (clock : IsOfClock c) : IsIso c := by
  rcases clock with digit | rfl | rfl
  · exact .inl digit
  · exact .inr (by decide)
  · exact .inr (by decide)

theorem IsOfClock.startsOffset_eq (clock : IsOfClock c) : startsOffset c = false := by
  rcases clock with digit | rfl | rfl
  · rw [startsOffset, Bool.or_eq_false_iff, Bool.or_eq_false_iff]
    refine ⟨⟨?_, ?_⟩, ?_⟩ <;> (rw [beq_eq_false_iff_ne]; rintro rfl; cases digit)
  · rfl
  · rfl

theorem isOfClock_of_fractionChars {fraction : Nat} (listed : c ∈ fractionChars fraction) : IsOfClock c := by
  rw [fractionChars] at listed
  split at listed
  · cases listed
  · rcases List.mem_cons.mp listed with rfl | digit
    · exact .inr (.inr rfl)
    · exact .inl (isDigit_padded digit)

theorem isOfClock_of_clockChars (listed : c ∈ clockChars micros) : IsOfClock c := by
  change c ∈ padded 2 _ ++ ':' :: padded 2 _ ++ ':' :: padded 2 _ ++ fractionChars _ at listed
  simp only [List.append_assoc, List.cons_append, List.mem_append, List.mem_cons] at listed
  rcases listed with digit | rfl | digit | rfl | digit | fraction
  case inr.inr.inr.inr.inr => exact isOfClock_of_fractionChars fraction
  case inr.inl | inr.inr.inr.inl => exact .inr (.inl rfl)
  all_goals exact .inl (isDigit_padded digit)

theorem isOfClock_of_distanceChars (listed : c ∈ distanceChars micros) : IsOfClock c := by
  simp only [distanceChars, List.append_assoc, List.cons_append, List.mem_append, List.mem_cons] at listed
  rcases listed with digit | rfl | digit | rest
  · exact .inl (isDigit_padded digit)
  · exact .inr (.inl rfl)
  · exact .inl (isDigit_padded digit)
  · split at rest
    · cases rest
    · simp only [List.mem_append, List.mem_cons] at rest
      rcases rest with rfl | digit | fraction
      · exact .inr (.inl rfl)
      · exact .inl (isDigit_padded digit)
      · exact isOfClock_of_fractionChars fraction

theorem isIso_of_offsetChars {offset : Int} (listed : c ∈ offsetChars offset) : IsIso c := by
  rw [offsetChars_eq] at listed
  rcases List.mem_cons.mp listed with rfl | distance
  · exact .inr (by split <;> decide)
  · exact (isOfClock_of_distanceChars distance).isIso

/-- Whether the clock of a timestamp is less than a day ahead of universal time or behind it, where that is known. -/
def Timestamp.IsNear (stamp : Timestamp) : Prop :=
  ∀ offset, stamp.offset = some offset → offset.natAbs < microsPerDay

/-- The distance of a clock is a sign and what stands behind it. -/
theorem exists_sign (offset : Int) : ∃ sign, offsetChars offset = sign :: distanceChars offset.natAbs ∧
    startsOffset sign = true ∧ sign ≠ 'Z' ∧ (sign == '-') = decide (offset < 0) := by
  refine ⟨_, offsetChars_eq offset, ?_⟩
  split
  next behind => exact ⟨rfl, by decide, (decide_eq_true behind).symm⟩
  next ahead => exact ⟨rfl, by decide, (decide_eq_false ahead).symm⟩

/-- A time of day is told apart from what stands behind it. -/
theorem span_clockChars (micros : Nat) {zone : List Char}
    (starts : ∀ c rest, zone = c :: rest → startsOffset c = true) :
    (clockChars micros ++ zone).span (fun c => !startsOffset c) = (clockChars micros, zone) := by
  have inside : ∀ c ∈ clockChars micros, (!startsOffset c) = true := fun c listed => by
    rw [(isOfClock_of_clockChars listed).startsOffset_eq]
    rfl
  rw [List.span_eq_takeWhile_dropWhile, List.takeWhile_append_of_pos inside, List.dropWhile_append_of_pos inside]
  cases zone with
  | nil => simp
  | cons c rest => simp [starts c rest rfl]

section Parts

variable {date : Date} {chars clock rest : List Char} {sign : Char} {parts : ClockParts} {offset : Int}

theorem readTimePart?_of_clock (told : chars.span (fun c => !startsOffset c) = (clock, []))
    (read : readClock? clock [] = some parts) (complete : parts.complete = true) :
    readTimePart? date chars = withClock? date parts none := by
  simp only [readTimePart?, told, read, Option.bind_eq_bind, Option.bind_some, complete, if_true]

theorem readTimePart?_of_zone (told : chars.span (fun c => !startsOffset c) = (clock, sign :: rest))
    (read : readClock? clock (sign :: rest) = some parts) (signed : sign ≠ 'Z')
    (distance : readOffset? (sign == '-') rest = some offset) :
    readTimePart? date chars = withClock? date parts (some offset) := by
  rw [readTimePart?, told]
  dsimp only
  rw [read, Option.bind_eq_bind, Option.bind_some]
  split
  next none => cases none
  next zulu => exact absurd (List.cons.inj zulu).1 signed
  next begins =>
    obtain ⟨rfl, rfl⟩ := List.cons.inj begins
    -- by `rfl` the kernel would count the microseconds of a day
    rw [distance, Option.bind_eq_bind, Option.bind_some]

end Parts

/-- A time of day is read with the distance of its clock. -/
theorem readTimePart?_iso {stamp : Timestamp} (near : stamp.IsNear) :
    readTimePart? stamp.date (clockChars stamp.micros ++ (stamp.offset.map offsetChars).getD []) = some stamp := by
  have whole (complete : Bool) :
      withClock? stamp.date (clockParts stamp.micros complete) stamp.offset = some stamp := withClock?_parts stamp
  cases known : stamp.offset with
  | none =>
    obtain ⟨complete, read, ends⟩ := readClock?_clockChars stamp.micros_lt []
    have told := span_clockChars stamp.micros (fun c rest (begins : [] = c :: rest) => nomatch begins)
    rw [known] at whole
    exact (readTimePart?_of_clock told read (ends rfl)).trans (whole complete)
  | some offset =>
    have distance := readOffset?_distanceChars (near offset known)
    obtain ⟨sign, same, starts, signed, negative⟩ := exists_sign offset
    rw [← negative] at distance
    have told := span_clockChars stamp.micros
      (fun c rest (begins : sign :: distanceChars offset.natAbs = c :: rest) => (List.cons.inj begins).1 ▸ starts)
    obtain ⟨complete, read, -⟩ := readClock?_clockChars stamp.micros_lt (sign :: distanceChars offset.natAbs)
    rw [known] at whole
    rw [Option.map_some, Option.getD_some, same]
    exact (readTimePart?_of_zone told read signed distance).trans (whole complete)

theorem Timestamp.toList_iso (stamp : Timestamp) : stamp.iso.toList =
    stamp.date.isoChars ++ 'T' :: (clockChars stamp.micros ++ (stamp.offset.map offsetChars).getD []) := by
  rw [iso, isoWith, String.toList_ofList, List.append_assoc, List.cons_append]

theorem isIso_of_iso {stamp : Timestamp} (listed : c ∈ stamp.iso.toList) : IsIso c := by
  simp only [stamp.toList_iso, List.mem_append, List.mem_cons] at listed
  rcases listed with date | rfl | clock | zone
  · exact isIso_isoChars stamp.date date
  · exact .inr (by decide)
  · exact (isOfClock_of_clockChars clock).isIso
  · cases known : stamp.offset with
    | none => simp [known] at zone
    | some offset => exact isIso_of_offsetChars (by simpa [known] using zone)

/-- A timestamp in ISO form is read as it. -/
theorem ofIso?_iso {stamp : Timestamp} (near : stamp.IsNear) : Timestamp.ofIso? stamp.iso.toList = some stamp := by
  have plain : ∀ c ∈ 'T' :: (clockChars stamp.micros ++ (stamp.offset.map offsetChars).getD []), c.toNat < 128 := by
    intro c listed
    exact (isIso_of_iso (stamp.toList_iso ▸ List.mem_append_right _ listed)).toNat_lt
  rw [stamp.toList_iso, Timestamp.ofIso?, datePartLength_isoChars _ _ plain, readDatePart?_isoChars]
  simp only [Option.bind_eq_bind, Option.bind_some, List.drop_left' stamp.date.length_isoChars]
  exact readTimePart?_iso near

/-- A date in ISO form is read as the timestamp of its midnight. -/
theorem ofIso?_date (date : Date) : Timestamp.ofIso? date.isoChars = some (.midnight date) := by
  have length := datePartLength_isoChars date [] (by simp)
  have read := readDatePart?_isoChars date [] 10
  rw [List.append_nil] at length read
  rw [Timestamp.ofIso?, length, read]
  simp [List.drop_eq_nil_of_le (Nat.le_of_eq date.length_isoChars)]

end Timestamps

end Obligations.Calendar
