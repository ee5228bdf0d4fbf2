import Obligations.Proofs.Condition.Form
import Obligations.Proofs.Schema.Spelling

/-! # Two spellings of conditions

The members of a condition may go by either of their names, and so may those of the conditions in a group, at any
depth. What a condition is compared with stays as it is.
-/

namespace Obligations

open Obligations.Schema

variable {table : List Key}

namespace Requirement

def respelling : Respelling :=
  .record (keys.map Key.part)

theorem respects_respelling (suits : Suits table keys) : reader.Respects table respelling := by
  show (Reader.closedRecord ((keys.map Key.part).map (·.key)) ofMembers).Respects table respelling
  refine Reader.respects_closedRecord fun {members others} respelled => ?_
  simp only [ofMembers, Checked.inWire_seq, Checked.inWire_map]
  rw [respelled.required_part suits (by simp [keys]), respelled.required_part suits (by simp [keys]),
    respelled.withDefault_part suits (by simp [keys]), respelled.optional_part suits (by simp [keys]),
    respelled.optional_part suits (by simp [keys])]

end Requirement

namespace Condition

/-- The members of a group, whose conditions are respelled in turn. -/
def groupParts (each : Respelling) : List Part :=
  [⟨membersKey, each.listOf⟩, connectiveKey.part, negatedKey.part]

/-- Conditions down to a depth: groups with the conditions in them, and requirements. -/
def respelling : Nat → Respelling
  | 0 => .none
  | depth + 1 => {
      Relates := fun value other =>
        if (nested? value).isSome then (Respelling.record (groupParts (respelling depth))).Relates value other
        else Requirement.respelling.Relates value other
      isNull_eq := by
        intro value other relates
        split at relates
        · exact Respelling.isNull_eq _ relates
        · exact Respelling.isNull_eq _ relates }

/-- A requirement that is respelled has no conditions inside on either side. -/
theorem nested?_eq_of_requirement {value other : Value} (relates : Requirement.respelling.Relates value other) :
    nested? value = nested? other := by
  rcases relates with rfl | ⟨members, others, rfl, rfl, respelled⟩
  · rfl
  · exact respelled.lookup_eq (by decide)

theorem nestedReader_respects {each : Respelling} (respects : Reader.Respects table reader each) :
    nestedReader.Respects table each.listOf := by
  rintro value other (rfl | ⟨items, others, rfl, rfl, related⟩)
  · rfl
  cases related with
  | nil => rfl
  | cons first more =>
    simp only [nestedReader, List.isEmpty_cons, Bool.false_eq_true, if_false, readAll_eq_items]
    exact respects.items (.cons first more) 0

theorem groupOf_respelled {each : Respelling} {nested nestedToo : Checked (List Condition)}
    {members others : List (String × Value)} (suits : Suits table groupKeys)
    (respelled : RespelledMembers (groupParts each) members others)
    (inside : nested.inWire table = nestedToo.inWire table) :
    (groupOf nested members).inWire table = (groupOf nestedToo others).inWire table := by
  have unknown : unknownMembers groupKeys members = unknownMembers groupKeys others :=
    respelled.unknownMembers_eq
  have parts : (Condition.group <$> nested
        <*> connectiveKey.withDefault .all (Reader.code Connective.ofCode?) members
        <*> negatedKey.withDefault false Reader.bool members).inWire table =
      (Condition.group <$> nestedToo
        <*> connectiveKey.withDefault .all (Reader.code Connective.ofCode?) others
        <*> negatedKey.withDefault false Reader.bool others).inWire table := by
    simp only [Checked.inWire_seq, Checked.inWire_map]
    rw [inside, respelled.withDefault_part suits (by simp [groupParts]),
      respelled.withDefault_part suits (by simp [groupParts])]
  rw [groupOf, groupOf, unknown]
  split
  · exact parts
  · rw [Checked.inWire_both, Checked.inWire_both, parts]

/-- Conditions come to the same in both spellings, down to any depth. -/
theorem respects_respelling (suits : Suits table Requirement.keys) (suitsToo : Suits table groupKeys)
    (depth : Nat) : Reader.Respects table reader (respelling depth) := by
  -- at each depth, the conditions of a group are those of one depth less
  induction depth with
  | zero => exact Reader.respects_none
  | succ depth ih =>
    intro value other relates
    change (if (nested? value).isSome then _ else _) at relates
    split at relates
    next some =>
      rcases relates with rfl | ⟨members, others, rfl, rfl, respelled⟩
      · rfl
      have listed : ⟨membersKey, (respelling depth).listOf⟩ ∈ groupParts (respelling depth) := List.mem_cons_self
      rcases respelled.lookup_cases suitsToo listed with ⟨none, -⟩ | ⟨items, itemsToo, looked, lookedToo, related⟩
      · simp [nested?, none] at some
      · rw [reader_of_some looked, reader_of_some lookedToo, Checked.inWire_under, Checked.inWire_under]
        congr 1
        refine groupOf_respelled suitsToo respelled ?_
        rw [Checked.inWire_under, Checked.inWire_under, nestedReader_respects ih related]
    next none =>
      rw [Option.not_isSome_iff_eq_none] at none
      have noneToo := nested?_eq_of_requirement relates ▸ none
      rw [reader_of_none none, reader_of_none noneToo, Checked.inWire_under, Checked.inWire_under]
      show Checked.under _ (Checked.inWire table (Condition.leaf <$> Requirement.reader value)) =
        Checked.under _ (Checked.inWire table (Condition.leaf <$> Requirement.reader other))
      rw [Checked.inWire_map, Checked.inWire_map, Requirement.respects_respelling suits relates]

theorem listReader_respects (suits : Suits table Requirement.keys) (suitsToo : Suits table groupKeys)
    (depth : Nat) : listReader.Respects table (respelling depth).listOf := by
  rw [listReader_eq_listOf]
  exact (respects_respelling suits suitsToo depth).listOf

end Condition

end Obligations
