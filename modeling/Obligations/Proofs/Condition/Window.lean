import Obligations.Proofs.Calendar.Arithmetic
import Obligations.Proofs.Offset.Text
import Obligations.Proofs.Outcome
import Obligations.Proofs.Value.Order

/-! # Windows of time

A requirement with a time is one on the order of two moments: the one of the field, and the one that far from now.
Where a month has thirty days and a year three hundred and sixty-five, every time is a number of minutes, and the moment
that far from now is there exactly if the calendar goes that far: no time is too long that does not also lead out of it.
The later it is and the longer the time, the later is that moment. So a field that lies before it still does so later on
and with a longer time, as long as the calendar goes that far, and one that lies behind it also did so earlier and with
a shorter time. How late it is means what the clock shows, whatever it is ahead of universal time.
-/

namespace Obligations

open Obligations.Calendar

namespace Calendar

namespace Timestamp

variable {stamp moment : Timestamp} {place : Int} {clock : Option Int} {span : Span}

/-- The first position behind the last day of the calendar. -/
def endOfCalendar : Nat := (Date.lastOrdinal + 1) * microsPerDay

theorem position_bounds (stamp : Timestamp) : microsPerDay ≤ stamp.position ∧ stamp.position < endOfCalendar := by
  have low := Date.one_le_ordinal stamp.date
  have high := Date.ordinal_le_last stamp.date
  have inside := stamp.micros_lt
  rw [position, endOfCalendar]
  constructor
  · exact Nat.le_trans (Nat.le_mul_of_pos_left _ low) (Nat.le_add_right _ _)
  · calc
      stamp.date.ordinal * microsPerDay + stamp.micros < stamp.date.ordinal * microsPerDay + microsPerDay := by omega
      _ = (stamp.date.ordinal + 1) * microsPerDay := (Nat.succ_mul _ _).symm
      _ ≤ (Date.lastOrdinal + 1) * microsPerDay := Nat.mul_le_mul_right _ (Nat.succ_le_succ high)

@[simp] theorem position_withoutOffset (stamp : Timestamp) : stamp.withoutOffset.position = stamp.position := rfl

/-- The calendar has a timestamp at every position between its first and its last day. -/
theorem exists_ofPosition? (clock : Option Int) (low : microsPerDay ≤ place) (high : place < endOfCalendar) :
    ∃ stamp, ofPosition? place clock = some stamp := by
  have positive : (0 : Int) < microsPerDay := by decide
  have first : 1 ≤ place / microsPerDay := (Int.le_ediv_iff_mul_le positive).mpr (by omega)
  have last : place / microsPerDay < (Date.lastOrdinal + 1 : Nat) :=
    Int.ediv_lt_of_lt_mul positive (by rwa [endOfCalendar, Int.natCast_mul] at high)
  obtain ⟨days, same⟩ := Int.eq_ofNat_of_zero_le (show 0 ≤ place / microsPerDay by omega)
  obtain ⟨date, found, -⟩ := Date.exists_ofOrdinal? (show 1 ≤ days by omega) (by omega)
  exact ⟨_, by rw [ofPosition?, same, found, Option.map_some]⟩

theorem position_of_ofPosition? (found : ofPosition? place clock = some stamp) : (stamp.position : Int) = place := by
  obtain ⟨date, dated, rfl⟩ := Option.map_eq_some_iff.mp found
  have counted := Date.ordinal_of_ofOrdinal? dated
  have rest := Int.emod_nonneg place (b := (microsPerDay : Int)) (by decide)
  rw [position, Int.natCast_add, Int.natCast_mul, counted, Int.toNat_of_nonneg rest]
  exact Int.ediv_mul_add_emod place microsPerDay

theorem position_of_add (moved : stamp.add span = .ok moment) :
    (moment.position : Int) = stamp.position + span.micros := by
  rw [add] at moved
  split at moved
  next found =>
    cases moved
    exact position_of_ofPosition? found
  next => cases moved

/-- A span leads to a moment if the calendar has one at that distance. -/
theorem exists_add (span : Span) (away : (moment.position : Int) = stamp.position + span.micros) :
    ∃ boundary, stamp.add span = .ok boundary := by
  obtain ⟨low, high⟩ := position_bounds moment
  obtain ⟨boundary, found⟩ := exists_ofPosition? stamp.offset (Int.ofNat_le.mpr low) (Int.ofNat_lt.mpr high)
  exact ⟨boundary, by rw [add, ← away, found]⟩

end Timestamp

theorem Span.micros_of_ofMicros {micros : Int} {span : Span} (allowed : ofMicros micros = .ok span) :
    span.micros = micros := by
  rw [ofMicros] at allowed
  split at allowed
  next => cases allowed
  split at allowed
  next => cases allowed
  next => exact (Except.ok.inj allowed) ▸ rfl

/-- A span is allowed if it is not longer than the calendar. -/
theorem Span.ofMicros_of_le (micros : Int) (low : -Timestamp.endOfCalendar ≤ micros)
    (high : micros ≤ Timestamp.endOfCalendar) : Span.ofMicros micros = .ok ⟨micros⟩ := by
  have positive : (0 : Int) < microsPerDay := by decide
  rw [Timestamp.endOfCalendar, Int.natCast_mul] at low high
  have least : -(Date.lastOrdinal + 1 : Nat) ≤ micros / microsPerDay :=
    (Int.le_ediv_iff_mul_le positive).mpr (by rwa [Int.neg_mul])
  have most : micros / microsPerDay ≤ (Date.lastOrdinal + 1 : Nat) := by
    rw [← Int.mul_ediv_cancel (Date.lastOrdinal + 1 : Nat) (Int.ne_of_gt positive)]
    exact Int.ediv_le_ediv positive high
  rw [Date.lastOrdinal] at least most
  have whole : days ⟨micros⟩ = micros / microsPerDay := rfl
  simp only [ofMicros, whole, wordBound, dayLimit, Bool.or_eq_true, decide_eq_true_eq]
  rw [if_neg (by omega), if_neg (by omega)]

end Calendar

/-- The minutes of a unit, where a month has thirty days and a year three hundred and sixty-five. -/
def TimeUnit.minutes : TimeUnit → Nat
  | .minute => 1
  | .hour => 60
  | .day => 24 * 60
  | .week => 7 * (24 * 60)
  | .month => 30 * (24 * 60)
  | .year => 365 * (24 * 60)

namespace Offset

def minutes (offset : Offset) : Int :=
  offset.amount * offset.unit.minutes

def micros (offset : Offset) : Int :=
  offset.minutes * (60 * microsPerSecond : Nat)

/-- Whether a moment is as far from now as an offset tells, by what the clocks show. -/
def LeadsTo (offset : Offset) (now moment : Timestamp) : Prop :=
  (moment.position : Int) = now.position + offset.micros

instance (offset : Offset) (now moment : Timestamp) : Decidable (offset.LeadsTo now moment) :=
  inferInstanceAs (Decidable ((moment.position : Int) = now.position + offset.micros))

variable {offset : Offset} {now moment boundary : Timestamp} {span : Span}

theorem toSpan_eq (offset : Offset) : offset.toSpan = Span.ofMicros offset.micros := by
  rw [micros, minutes, toSpan]
  cases offset.unit <;>
    simp only [Span.ofMinutes, Span.ofDays, TimeUnit.minutes, microsPerDay, microsPerSecond] <;> congr 1 <;> omega

theorem leadsTo_of_add (length : offset.toSpan = .ok span) (moved : now.withoutOffset.add span = .ok boundary) :
    offset.LeadsTo now boundary := by
  have away := Timestamp.position_of_add moved
  rw [toSpan_eq] at length
  rw [Span.micros_of_ofMicros length] at away
  exact away

/-- An offset that leads to a moment has an allowed length, and adding it leads there. -/
theorem LeadsTo.exists_add (leads : offset.LeadsTo now moment) :
    ∃ span boundary, offset.toSpan = .ok span ∧ now.withoutOffset.add span = .ok boundary := by
  have here := now.position_bounds
  have there := moment.position_bounds
  have away : (moment.position : Int) = now.position + offset.micros := leads
  have allowed := Span.ofMicros_of_le offset.micros (by omega) (by omega)
  have reached : (moment.position : Int) = now.withoutOffset.position + (⟨offset.micros⟩ : Span).micros := leads
  obtain ⟨boundary, moved⟩ := Timestamp.exists_add _ reached
  exact ⟨_, boundary, offset.toSpan_eq.trans allowed, moved⟩

section Order

variable {shorter longer : Offset} {later other : Timestamp}

theorem micros_le (within : shorter.minutes ≤ longer.minutes) : shorter.micros ≤ longer.micros :=
  Int.mul_le_mul_of_nonneg_right within (Int.natCast_nonneg _)

theorem micros_nonneg (ahead : 0 ≤ offset.amount) : 0 ≤ offset.micros :=
  Int.mul_nonneg (Int.mul_nonneg ahead (Int.natCast_nonneg _)) (Int.natCast_nonneg _)

variable (within : shorter.minutes ≤ longer.minutes) (ordered : now.position ≤ later.position)
  (leadsToo : longer.LeadsTo later other)

include within ordered leadsToo

/-- A longer way leads to a later moment. -/
theorem position_le_of_leadsTo (leads : shorter.LeadsTo now moment) : moment.position ≤ other.position := by
  have way := micros_le within
  rw [LeadsTo] at leads leadsToo
  omega

/-- Where a longer way into the future leads to a moment, a shorter one also does. -/
theorem exists_leadsTo_of_le (ahead : 0 ≤ shorter.amount) : ∃ moment, shorter.LeadsTo now moment := by
  have way := micros_le within
  have future := micros_nonneg ahead
  have low := now.position_bounds.1
  have high := other.position_bounds.2
  rw [LeadsTo] at leadsToo
  obtain ⟨moment, found⟩ := Timestamp.exists_ofPosition? none
    (show (microsPerDay : Int) ≤ now.position + shorter.micros by omega) (by omega)
  exact ⟨moment, Timestamp.position_of_ofPosition? found⟩

end Order

end Offset

namespace Outcome

theorem ofCalendar_eq_ok {α : Type} {result : Except Fault α} {value : α} :
    ofCalendar result = .ok value ↔ result = .ok value := by
  cases result <;> simp [ofCalendar]

end Outcome

namespace Value

theorem toStamp?_stamp (moment : Timestamp) : (stamp moment).toStamp? = some moment.withoutOffset := by
  rw [toStamp?]

theorem toStamp?_of_isNull {value : Value} (missing : value.isNull = true) : value.toStamp? = none := by
  cases value with
  | null => rfl
  | _ => cases missing

end Value

namespace Comparison

/-- The comparisons that ask for an earlier moment. -/
def befores : List Comparison := [.lessThan, .lessThanOrEqual]

/-- The comparisons that ask for a later moment. -/
def behinds : List Comparison := [.greaterThan, .greaterThanOrEqual]

/-- Whether two places on a line are in order as a comparison asks for. -/
def Orders (place bound : Nat) : Comparison → Prop
  | .lessThan => place < bound
  | .lessThanOrEqual => place ≤ bound
  | .greaterThan => bound < place
  | .greaterThanOrEqual => bound ≤ place
  | _ => False

variable {comparison : Comparison} {place bound other : Nat} {field : String} {moment boundary : Timestamp}

theorem Orders.mono (before : comparison ∈ befores) (orders : comparison.Orders place bound) (later : bound ≤ other) :
    comparison.Orders place other := by
  simp only [befores, List.mem_cons, List.not_mem_nil, or_false] at before
  rcases before with rfl | rfl
  · exact Nat.lt_of_lt_of_le orders later
  · exact Nat.le_trans orders later

theorem Orders.anti (behind : comparison ∈ behinds) (orders : comparison.Orders place bound) (earlier : other ≤ bound) :
    comparison.Orders place other := by
  simp only [behinds, List.mem_cons, List.not_mem_nil, or_false] at behind
  rcases behind with rfl | rfl
  · exact Nat.lt_of_le_of_lt earlier orders
  · exact Nat.le_trans earlier orders

theorem order?_stamps (moment boundary : Timestamp) :
    (Value.stamp moment).order? (.stamp boundary) = some (Ord.compare moment.position boundary.position) := by
  have moments :=
    Value.momentOrder?_of_stamps (.inl rfl) (Value.toStamp?_stamp moment) (Value.toStamp?_stamp boundary)
  rw [Value.order?_eq, moments, Option.some_or, Timestamp.compare, Timestamp.position_withoutOffset,
    Timestamp.position_withoutOffset]

theorem holds_stamps (ordering : comparison ∈ befores ++ behinds) :
    comparison.holds field (.stamp moment) (.stamp boundary) = .ok true ↔
      comparison.Orders moment.position boundary.position := by
  simp only [befores, behinds, List.cons_append, List.nil_append, List.mem_cons, List.not_mem_nil, or_false] at ordering
  rcases ordering with rfl | rfl | rfl | rfl <;>
    simp [holds, order?_stamps, Outcome.ofPrinted, Orders, Nat.compare_eq_lt, Nat.compare_eq_gt]

end Comparison

namespace Requirement

variable {requirement : Requirement} {now : Timestamp} {actual : Value} {time : Offset}

/-- Whether a missing value is in order with a moment is not asked. -/
theorem holds_of_time (ordering : requirement.comparison ∈ Comparison.befores ++ Comparison.behinds)
    (timed : requirement.time = some time) : requirement.holds now actual =
      if actual.isNull then .ok false else requirement.holdsInTime now actual time := by
  simp only [Comparison.befores, Comparison.behinds, List.cons_append, List.nil_append, List.mem_cons,
    List.not_mem_nil, or_false] at ordering
  rw [holds, timed]
  rcases ordering with same | same | same | same <;> rw [same]

/-- Where a time is given, the moment of the field is compared with the moment that far from now. -/
theorem holdsInTime_eq_ok {passed : Bool} : requirement.holdsInTime now actual time = .ok passed ↔
    ∃ moment span boundary, actual.toStamp? = some moment ∧ time.toSpan = .ok span ∧
      now.withoutOffset.add span = .ok boundary ∧
        requirement.comparison.holds requirement.field (.stamp moment) (.stamp boundary) = .ok passed := by
  rw [holdsInTime]
  cases actual.toStamp? with
  | none =>
    refine iff_of_false (fun answered => ?_) ?_
    · obtain ⟨_, -, refused⟩ := Outcome.bind_eq_ok.mp answered
      exact Outcome.fail_ne_ok refused
    · rintro ⟨moment, _, _, none, _⟩
      cases none
  | some moment =>
    simp only [Outcome.bind_eq_ok, Outcome.ofCalendar_eq_ok, Option.some.injEq, exists_and_left, exists_eq_left']

end Requirement

namespace Condition

variable {requirement : Requirement} {now later : Timestamp} {record : Value} {time shorter longer : Offset}

/-- A requirement with a time is met if the field has a moment, and this is in order with one that far from now. -/
theorem passes_iff_of_time (ordering : requirement.comparison ∈ Comparison.befores ++ Comparison.behinds)
    (timed : requirement.time = some time) : passes now record (.leaf requirement) = true ↔
      ∃ moment boundary, (record.atPath requirement.field).toStamp? = some moment ∧ time.LeadsTo now boundary ∧
        requirement.comparison.Orders moment.position boundary.position := by
  rw [passes_leaf_iff, Requirement.holds_of_time ordering timed]
  split
  next missing =>
    refine iff_of_false nofun ?_
    rintro ⟨moment, _, known, _⟩
    rw [Value.toStamp?_of_isNull missing] at known
    cases known
  next =>
    rw [Requirement.holdsInTime_eq_ok]
    constructor
    · rintro ⟨moment, span, boundary, known, length, moved, held⟩
      exact ⟨moment, boundary, known, Offset.leadsTo_of_add length moved, (Comparison.holds_stamps ordering).mp held⟩
    · rintro ⟨moment, boundary, known, leads, orders⟩
      obtain ⟨span, other, length, moved⟩ := leads.exists_add
      have same : other.position = boundary.position :=
        Int.ofNat_inj.mp ((Offset.leadsTo_of_add length moved).trans leads.symm)
      rw [← same] at orders
      exact ⟨moment, span, other, known, length, moved, (Comparison.holds_stamps ordering).mpr orders⟩

/-- A requirement with another time. -/
def window (requirement : Requirement) (time : Offset) : Condition :=
  .leaf { requirement with time := some time }

theorem passes_window_iff (ordering : requirement.comparison ∈ Comparison.befores ++ Comparison.behinds) :
    passes now record (window requirement time) = true ↔
      ∃ moment boundary, (record.atPath requirement.field).toStamp? = some moment ∧ time.LeadsTo now boundary ∧
        requirement.comparison.Orders moment.position boundary.position := by
  have timed : ({ requirement with time := some time } : Requirement).time = some time := rfl
  exact passes_iff_of_time ordering timed

section Monotone

variable (within : shorter.minutes ≤ longer.minutes) (ordered : now.position ≤ later.position)

include within ordered

/-- A field that lies before a moment later lies before a later one, if the calendar has it. -/
theorem passes_longer (before : requirement.comparison ∈ Comparison.befores)
    (passed : passes now record (window requirement shorter) = true) :
    passes later record (window requirement longer) = true ↔ ∃ moment, longer.LeadsTo later moment := by
  have ordering := List.mem_append_left Comparison.behinds before
  obtain ⟨moment, boundary, known, leads, orders⟩ := (passes_window_iff ordering).mp passed
  rw [passes_window_iff ordering]
  constructor
  · rintro ⟨_, other, _, leadsToo, _⟩
    exact ⟨other, leadsToo⟩
  · rintro ⟨other, leadsToo⟩
    have grown := Offset.position_le_of_leadsTo within ordered leadsToo leads
    exact ⟨moment, other, known, leadsToo, orders.mono before grown⟩

/-- A field that lies behind a moment lies behind an earlier one, which the calendar has if it is not in the past. -/
theorem passes_shorter (ahead : 0 ≤ shorter.amount) (behind : requirement.comparison ∈ Comparison.behinds)
    (passed : passes later record (window requirement longer) = true) :
    passes now record (window requirement shorter) = true := by
  have ordering := List.mem_append_right Comparison.befores behind
  obtain ⟨moment, other, known, leadsToo, orders⟩ := (passes_window_iff ordering).mp passed
  obtain ⟨boundary, leads⟩ := Offset.exists_leadsTo_of_le within ordered leadsToo ahead
  have grown := Offset.position_le_of_leadsTo within ordered leadsToo leads
  exact (passes_window_iff ordering).mpr ⟨moment, boundary, known, leads, orders.anti behind grown⟩

end Monotone

/-- Windows of time grow with the clock and with their length. A field that lies before the end of one is also before
the end of a later or longer one, exactly if the calendar has the moment in which this one ends. A field that lies
behind the end of one is also behind that of any earlier and shorter one. -/
theorem window_isMonotone {text : String} (read : Offset.durationOfText text = .ok shorter)
    (within : shorter.minutes ≤ longer.minutes) (ordered : now.position ≤ later.position) (record : Value)
    (requirement : Requirement) :
    (requirement.comparison ∈ Comparison.befores → passes now record (window requirement shorter) = true →
      (passes later record (window requirement longer) = true ↔ ∃ moment, longer.LeadsTo later moment)) ∧
    (requirement.comparison ∈ Comparison.behinds → passes later record (window requirement longer) = true →
      passes now record (window requirement shorter) = true) :=
  ⟨passes_longer within ordered, passes_shorter within ordered (Offset.durationOfText_spec read).1⟩

/-- What asks for the order of a date and a moment. -/
def due (comparison : Comparison) : Requirement :=
  ⟨"due", comparison, .null, none, none⟩

def dueOn (date : Date) : Value :=
  .map [("due", .date date)]

/-- A morning in spring. -/
def morning : Timestamp :=
  .atTime ⟨2024, 3, 4, by decide⟩ 9 0 0 0 (by decide)

def evening : Timestamp :=
  .endOfDay morning.date

/-- From the morning a week reaches less far than two months do from the evening. -/
theorem window_isMonotone_evening :
    (Offset.durationOfText "1week" = .ok ⟨1, .week⟩ ∧ Offset.minutes ⟨1, .week⟩ ≤ Offset.minutes ⟨2, .month⟩ ∧
      morning.position ≤ evening.position) ∧
    (passes morning (dueOn morning.date) (window (due .lessThan) ⟨1, .week⟩) = true ∧
      passes evening (dueOn morning.date) (window (due .lessThan) ⟨2, .month⟩) = true) ∧
    (passes evening (dueOn Date.last) (window (due .greaterThan) ⟨2, .month⟩) = true ∧
      passes morning (dueOn Date.last) (window (due .greaterThan) ⟨1, .week⟩) = true) := by
  have read : Offset.durationOfText "1week" = .ok ⟨1, .week⟩ := by decide +kernel
  have within : Offset.minutes ⟨1, .week⟩ ≤ Offset.minutes ⟨2, .month⟩ := by decide
  have ordered : morning.position ≤ evening.position := by decide +kernel
  have before : passes morning (dueOn morning.date) (window (due .lessThan) ⟨1, .week⟩) = true := by decide +kernel
  have behind : passes evening (dueOn Date.last) (window (due .greaterThan) ⟨2, .month⟩) = true := by decide +kernel
  have grown := (window_isMonotone read within ordered (dueOn morning.date) (due .lessThan)).1 (by decide) before
  have shrunk := (window_isMonotone read within ordered (dueOn Date.last) (due .greaterThan)).2 (by decide) behind
  have reached : Offset.LeadsTo ⟨2, .month⟩ evening (.endOfDay ⟨2024, 5, 3, by decide⟩) := by decide +kernel
  exact ⟨⟨read, within, ordered⟩, ⟨before, grown.mpr ⟨_, reached⟩⟩, behind, shrunk⟩

/-- The moment of a clock by universal time, where its distance from it is known. -/
def instant? (clock : Timestamp) : Option Int :=
  clock.offset.map (clock.position - ·)

/-- Twenty minutes past one in the night in which the clocks are set back. -/
def night : Timestamp :=
  .atTime ⟨2024, 11, 3, by decide⟩ 1 20 0 0 (by decide)

/-- Ten minutes behind, by the clock of the summer. -/
def summerClock : Timestamp :=
  { Timestamp.atTime night.date 1 30 0 0 (by decide) with offset := some (-4 * 3600000000) }

/-- Half an hour behind, by the clock of the winter, which shows ten minutes before. -/
def winterClock : Timestamp :=
  { Timestamp.atTime night.date 1 10 0 0 (by decide) with offset := some (-5 * 3600000000) }

/-- A window may lead out of the calendar, and a clock that is set back shows an earlier time. -/
theorem window_not_monotone :
    (Offset.durationOfText "1day" = .ok ⟨1, .day⟩ ∧ Offset.durationOfText "9999years" = .ok ⟨9999, .year⟩ ∧
      Offset.minutes ⟨1, .day⟩ ≤ Offset.minutes ⟨9999, .year⟩ ∧
      passes morning (dueOn morning.date) (window (due .lessThan) ⟨1, .day⟩) = true ∧
      passes morning (dueOn morning.date) (window (due .lessThan) ⟨9999, .year⟩) = false) ∧
    (Offset.durationOfText "0minutes" = .ok ⟨0, .minute⟩ ∧
      (∃ now ∈ instant? summerClock, ∃ later ∈ instant? winterClock, now ≤ later) ∧
      passes summerClock (.map [("due", .stamp night)]) (window (due .lessThan) ⟨0, .minute⟩) = true ∧
      passes winterClock (.map [("due", .stamp night)]) (window (due .lessThan) ⟨0, .minute⟩) = false) := by
  decide +kernel

end Condition

end Obligations
