import Mathlib.Algebra.Order.Ring.Rat
import Mathlib.Data.List.Induction

/-! # Records of what has happened

A record lists what has happened, one thing after the other. Some of these things give a value, and some
drop the value that an earlier one gave. The value that counts is the last one, unless it has been dropped.
-/

namespace Obligations

/-- How a record is read: when something happened, whether it dropped the value, and which value it gave.
Nothing gives a value and drops it. -/
structure RecordReading (ε α : Type) where
  clock : ε → Rat
  drops : ε → Bool
  value? : ε → Option α
  drops_of_value? : ∀ {event value}, value? event = some value → drops event = false

namespace RecordReading

variable {ε α : Type} (reading : RecordReading ε α) {record later : List ε} {event : ε} {value : α}
  {since : Rat}

/-- The value that counts after one more event, and when it was given. -/
def next (last : Option (Rat × α)) (event : ε) : Option (Rat × α) :=
  if reading.drops event then none
  else
    match reading.value? event with
    | some value => some (reading.clock event, value)
    | none => last

/-- The value that counts after all events of a record, and when it was given. -/
def last? (record : List ε) : Option (Rat × α) :=
  record.foldl reading.next none

theorem last?_concat (record : List ε) (event : ε) :
    reading.last? (record ++ [event]) = reading.next (reading.last? record) event := by
  rw [last?, List.foldl_append]
  rfl

/-- Whether an event of a record has given a value that nothing behind it has dropped. -/
structure Stands (record : List ε) (event : ε) (value : α) (later : List ε) : Prop where
  split : ∃ earlier, record = earlier ++ event :: later
  given : reading.value? event = some value
  undropped : ∀ other ∈ later, reading.drops other = false

variable {reading}

private theorem exists_stands_of_last? (found : reading.last? record = some (since, value)) :
    ∃ event later, reading.Stands record event value later ∧ reading.clock event = since ∧
      ∀ other ∈ later, reading.value? other = none := by
  induction record using List.reverseRecOn with
  | nil => cases found
  | append_singleton record event ih =>
    rw [last?_concat, next] at found
    split at found
    next => cases found
    next undropped =>
      split at found
      next own given =>
        cases found
        exact ⟨event, [], ⟨⟨record, rfl⟩, given, by simp⟩, rfl, by simp⟩
      next silent =>
        obtain ⟨source, later, ⟨⟨earlier, split⟩, given, others⟩, time, last⟩ := ih found
        refine ⟨source, later ++ [event], ⟨⟨earlier, by simp [split]⟩, given, ?_⟩, time, ?_⟩
        · intro other member
          rcases List.mem_append.mp member with member | member
          · exact others other member
          · rw [List.mem_singleton.mp member]
            exact Bool.eq_false_iff.mpr undropped
        · intro other member
          rcases List.mem_append.mp member with member | member
          · exact last other member
          · rw [List.mem_singleton.mp member]
            exact silent

/-- A value that stands in a record is followed by the one that counts. -/
theorem Stands.last? (stands : reading.Stands record event value later) :
    reading.last? record = later.foldl reading.next (some (reading.clock event, value)) := by
  obtain ⟨⟨earlier, rfl⟩, given, _⟩ := stands
  rw [RecordReading.last?, List.foldl_append, List.foldl_cons, next,
    if_neg (by simp [reading.drops_of_value? given]), given]

/-- The value that counts stands in the record, and no other one was given behind it. -/
theorem last?_eq_some_iff : reading.last? record = some (since, value) ↔
    ∃ event later, reading.Stands record event value later ∧ reading.clock event = since ∧
      ∀ other ∈ later, reading.value? other = none := by
  refine ⟨exists_stands_of_last?, ?_⟩
  rintro ⟨event, later, stands, rfl, last⟩
  rw [stands.last?]
  have undropped := stands.undropped
  clear stands
  induction later with
  | nil => rfl
  | cons first rest ih =>
    rw [List.forall_mem_cons] at last undropped
    rw [List.foldl_cons, next, if_neg (by simp [undropped.1]), last.1]
    exact ih last.2 undropped.2

/-- Where a value stands in a record in order, the one that counts is not older. -/
theorem Stands.exists_last? (stands : reading.Stands record event value later)
    (ordered : record.Pairwise fun first second => reading.clock first ≤ reading.clock second) :
    ∃ since last, reading.last? record = some (since, last) ∧ reading.clock event ≤ since := by
  rw [stands.last?]
  obtain ⟨⟨earlier, rfl⟩, -, undropped⟩ := stands
  have behind := (List.pairwise_cons.mp (List.pairwise_append.mp ordered).2.1).1
  have kept : ∀ since value, reading.clock event ≤ since → ∃ time last,
      later.foldl reading.next (some (since, value)) = some (time, last) ∧ reading.clock event ≤ time := by
    clear ordered
    induction later with
    | nil => exact fun since value notOlder => ⟨since, value, rfl, notOlder⟩
    | cons first rest ih =>
      intro since value notOlder
      rw [List.forall_mem_cons] at undropped behind
      rw [List.foldl_cons, next, if_neg (by simp [undropped.1])]
      cases reading.value? first with
      | none => exact ih undropped.2 behind.2 since value notOlder
      | some own => exact ih undropped.2 behind.2 _ own behind.1
  exact kept _ value (le_refl _)

end RecordReading

end Obligations
