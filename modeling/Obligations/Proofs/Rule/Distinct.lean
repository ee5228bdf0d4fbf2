import Obligations.Rule.Check
import Mathlib.Data.List.Basic
import Mathlib.Data.List.Induction
import Mathlib.Data.List.Nodup

/-! # Items each once

The distinct members of a list stand in the order in which they come first.
-/

namespace Obligations

variable {α : Type} [DecidableEq α] {items : List α}

/-- A further item counts only if it is new. -/
theorem distinct_concat (items : List α) (item : α) :
    distinct (items ++ [item]) =
      if item ∈ distinct items then distinct items else distinct items ++ [item] := by
  simp [distinct, List.foldl_append]

@[simp] theorem mem_distinct {item : α} : item ∈ distinct items ↔ item ∈ items := by
  induction items using List.reverseRecOn with
  | nil => rfl
  | append_singleton rest last ih =>
    rw [distinct_concat, List.mem_append, List.mem_singleton]
    by_cases listed : last ∈ distinct rest
    · rw [if_pos listed, ih]
      refine ⟨Or.inl, ?_⟩
      rintro (member | rfl)
      · exact member
      · exact ih.mp listed
    · rw [if_neg listed, List.mem_append, List.mem_singleton, ih]

theorem nodup_distinct (items : List α) : (distinct items).Nodup := by
  induction items using List.reverseRecOn with
  | nil => exact List.nodup_nil
  | append_singleton rest last ih =>
    rw [distinct_concat]
    split
    next => exact ih
    next fresh =>
      rw [← List.concat_eq_append]
      exact ih.concat fresh

/-- Lists with the same members have the same distinct ones. -/
theorem distinct_perm {others : List α} (perm : others.Perm items) :
    (distinct others).Perm (distinct items) :=
  (List.perm_ext_iff_of_nodup (nodup_distinct others) (nodup_distinct items)).mpr fun item => by
    rw [mem_distinct, mem_distinct, perm.mem_iff]

/-- Distinct items stand in the order in which they come first. -/
theorem distinct_pairwise (items : List α) :
    (distinct items).Pairwise fun first second => items.idxOf first < items.idxOf second := by
  induction items using List.reverseRecOn with
  | nil => exact List.Pairwise.nil
  | append_singleton rest last ih =>
    have still : ∀ {item}, item ∈ distinct rest → (rest ++ [last]).idxOf item = rest.idxOf item :=
      fun member => List.idxOf_append_of_mem (mem_distinct.mp member)
    have before : (distinct rest).Pairwise fun first second =>
        (rest ++ [last]).idxOf first < (rest ++ [last]).idxOf second :=
      ih.imp_of_mem fun first second earlier => by rwa [still first, still second]
    rw [distinct_concat]
    split
    next => exact before
    next fresh =>
      refine List.pairwise_append.mpr ⟨before, List.pairwise_singleton _ _, fun item member other same => ?_⟩
      obtain rfl := List.mem_singleton.mp same
      rw [still member, List.idxOf_append_of_notMem (fun listed => fresh (mem_distinct.mpr listed))]
      exact Nat.lt_of_lt_of_le (List.idxOf_lt_length_iff.mpr (mem_distinct.mp member)) (Nat.le_add_right _ _)

end Obligations
