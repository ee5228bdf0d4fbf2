import Obligations.DueDate.Plan
import Obligations.Proofs.Offset.Reading

/-! # Recovering plans for due dates

A plan is recovered from a document exactly if its offset is: as a text it has to count days or something
longer.
-/

namespace Obligations

open Obligations.Schema

theorem Strategy.ofCode?_code (strategy : Strategy) : ofCode? strategy.code = some strategy := by
  cases strategy <;> rfl

namespace DuePlan

/-- Whether the parts of a plan are what the members of a record are read as, and its bounds leave room. -/
structure IsReadFrom (plan : DuePlan) (members : List (String × Value)) : Prop where
  strategy : (Key.plain "type").required (Reader.code Strategy.ofCode?) members = .ok plan.strategy
  base : (Key.mk "baseDate" "base_date").optional Reader.text members = .ok plan.base
  offset : (Key.plain "offset").optional (Reader.offset Offset.ofText false) members = .ok plan.offset
  calculation : (Key.plain "calculation").optional Reader.text members = .ok plan.calculation
  businessDaysOnly : (Key.mk "businessDaysOnly" "business_days_only").withDefault false Reader.bool members =
    .ok plan.businessDaysOnly
  excludeHolidays : (Key.mk "excludeHolidays" "exclude_holidays").withDefault false Reader.bool members =
    .ok plan.excludeHolidays
  earliest : (Key.mk "minDate" "min_date").optional Reader.date members = .ok plan.earliest
  latest : (Key.mk "maxDate" "max_date").optional Reader.date members = .ok plan.latest
  room : plan.hasRoom = true

variable {plan : DuePlan} {members : List (String × Value)} {value : Value}

theorem ofMembers_eq_ok : ofMembers members = .ok plan ↔ plan.IsReadFrom members := by
  rw [ofMembers, Checked.andThen_eq_ok]
  simp only [Checked.seq_eq_ok, Checked.map_eq_ok]
  constructor
  · rintro ⟨_, ⟨_, _, ⟨_, _, ⟨_, _, ⟨_, _, ⟨_, _, ⟨_, _, ⟨_, _, ⟨_, strategy, rfl⟩, base, rfl⟩, offset, rfl⟩,
      calculation, rfl⟩, businessDaysOnly, rfl⟩, excludeHolidays, rfl⟩, earliest, rfl⟩, latest, rfl⟩, room⟩
    split at room
    next left =>
      cases room
      exact ⟨strategy, base, offset, calculation, businessDaysOnly, excludeHolidays, earliest, latest, left⟩
    next => cases room
  · intro read
    refine ⟨plan, ⟨_, _, ⟨_, _, ⟨_, _, ⟨_, _, ⟨_, _, ⟨_, _, ⟨_, _, ⟨_, read.strategy, rfl⟩, read.base, rfl⟩,
      read.offset, rfl⟩, read.calculation, rfl⟩, read.businessDaysOnly, rfl⟩, read.excludeHolidays, rfl⟩, read.earliest, rfl⟩,
      read.latest, rfl⟩, if_pos read.room⟩

/-- The members of a plan in a document. -/
theorem plain_toValue (plan : DuePlan) : plan.toValue.plain = .map [
    ("type", .text plan.strategy.code),
    ("baseDate", (Value.ofOption .text plan.base).plain),
    ("offset", (Value.ofOption Offset.written plan.offset).plain),
    ("calculation", (Value.ofOption .text plan.calculation).plain),
    ("businessDaysOnly", .bool plan.businessDaysOnly),
    ("excludeHolidays", .bool plan.excludeHolidays),
    ("minDate", (Value.ofOption .date plan.earliest).plain),
    ("maxDate", (Value.ofOption .date plan.latest).plain)] :=
  Value.plain_map _

theorem exists_isReadFrom (read : reader value = .ok plan) :
    ∃ members, value = .map members ∧ plan.IsReadFrom members := by
  obtain ⟨members, rfl, read⟩ := Reader.record_eq_ok.mp read
  exact ⟨members, rfl, ofMembers_eq_ok.mp read⟩

/-- Whether the text that the offset of a plan is written as is read as it again. -/
def IsTold (plan : DuePlan) : Prop :=
  ∀ offset ∈ plan.offset, Reader.Recovers (Reader.offset Offset.ofText false) Offset.written offset

/-- A plan is recovered exactly if its offset is. -/
theorem recovers_iff (read : reader value = .ok plan) :
    Reader.Recovers reader toValue plan ↔ plan.IsTold := by
  obtain ⟨members, rfl, parts⟩ := exists_isReadFrom read
  have offsets : Reader.Recovers (Reader.optional (Reader.offset Offset.ofText false))
      (.ofOption Offset.written) plan.offset ↔ plan.IsTold :=
    Reader.recovers_optional fun _ => by rintro ⟨⟩
  have dates (day : Option Calendar.Date) :
      Reader.Recovers (Reader.optional Reader.date) (.ofOption .date) day :=
    (Reader.recovers_optional fun _ => by rintro ⟨⟩).mpr fun _ _ => Reader.recovers_date _
  rw [← offsets, Reader.Recovers, plain_toValue, reader, Reader.record, ofMembers_eq_ok]
  constructor
  · intro recovered
    exact (Key.optional_of_lookup rfl).mp recovered.offset
  · intro recovered
    exact {
      strategy := (Key.required_of_lookup rfl).mpr (Reader.recovers_code plan.strategy.ofCode?_code)
      base := (Key.optional_of_lookup rfl).mpr (Reader.recovers_optionalText plan.base)
      offset := (Key.optional_of_lookup rfl).mpr recovered
      calculation := (Key.optional_of_lookup rfl).mpr (Reader.recovers_optionalText plan.calculation)
      businessDaysOnly := (Key.withDefault_of_lookup rfl).mpr rfl
      excludeHolidays := (Key.withDefault_of_lookup rfl).mpr rfl
      earliest := (Key.optional_of_lookup rfl).mpr (dates plan.earliest)
      latest := (Key.optional_of_lookup rfl).mpr (dates plan.latest)
      room := parts.room }

end DuePlan

end Obligations
