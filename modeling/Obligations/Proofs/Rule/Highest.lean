import Obligations.Proofs.Engine.RuleSet
import Obligations.Proofs.Rule.Distinct
import Mathlib.Data.Finset.Card

/-! # Which items are kept

Of the items of one key the first one of the highest priority is kept. The kept ones stand in the order
in which their keys come first, and sorting a set of rules by priority leaves those of one priority in
that order.
-/

namespace Obligations

section Highest

variable {α κ : Type} {key : α → κ} {priority : α → Int}

/-- Whether an item is the first one of the highest priority among the items of its key. -/
def IsHighest (key : α → κ) (priority : α → Int) (items : List α) (item : α) : Prop :=
  ∃ before after, items = before ++ item :: after ∧
    (∀ other ∈ before, key other = key item → priority other < priority item) ∧
    (∀ other ∈ after, key other = key item → priority other ≤ priority item)

variable {items : List α} {item other : α}

theorem IsHighest.le (highest : IsHighest key priority items item) (listed : other ∈ items)
    (same : key other = key item) : priority other ≤ priority item := by
  obtain ⟨before, after, rfl, lower, notHigher⟩ := highest
  rcases List.mem_append.mp listed with earlier | later
  · exact Int.le_of_lt (lower other earlier same)
  · rcases List.mem_cons.mp later with rfl | later
    · exact Int.le_refl _
    · exact notHigher other later same

/-- An item stays the highest as long as nothing higher of its key comes behind it. -/
theorem IsHighest.concat (highest : IsHighest key priority items item) {last : α}
    (notHigher : key last = key item → priority last ≤ priority item) :
    IsHighest key priority (items ++ [last]) item := by
  obtain ⟨before, after, rfl, lower, others⟩ := highest
  refine ⟨before, after ++ [last], by simp, lower, fun other listed same => ?_⟩
  rcases List.mem_append.mp listed with listed | listed
  · exact others other listed same
  · obtain rfl := List.mem_singleton.mp listed
    exact notHigher same

theorem isHighest_last {last : α}
    (lower : ∀ other ∈ items, key other = key last → priority other < priority last) :
    IsHighest key priority (items ++ [last]) last :=
  ⟨items, [], rfl, lower, fun _ none => nomatch none⟩

variable [DecidableEq κ]

theorem keepHighest_concat (items : List α) (item : α) :
    keepHighest key priority (items ++ [item]) =
      keepHighest.insert key priority (keepHighest key priority items) item := by
  rw [keepHighest, List.foldl_append]
  rfl

/-- The keys of the kept items, in the order in which they come first. -/
theorem map_key_keepHighest (key : α → κ) (priority : α → Int) (items : List α) :
    (keepHighest key priority items).map key = distinct (items.map key) := by
  induction items using List.reverseRecOn with
  | nil => rfl
  | append_singleton rest last ih =>
    rw [keepHighest_concat, map_key_insert, List.map_append, List.map_singleton, distinct_concat, ih]

/-- An item that is kept after one more is that one, and higher than what was kept of its key, or it was
kept before, and the one is of another key or not higher. -/
theorem cases_of_mem_insert {kept : List α} (distinct : (kept.map key).Nodup)
    (member : other ∈ keepHighest.insert key priority kept item) :
    (other = item ∧ ∀ old ∈ kept, key old = key item → priority old < priority item) ∨
      (other ∈ kept ∧ (key item = key other → priority item ≤ priority other)) := by
  induction kept with
  | nil => exact Or.inl ⟨List.mem_singleton.mp member, fun _ none => nomatch none⟩
  | cons first rest ih =>
    obtain ⟨fresh, distinctRest⟩ := List.nodup_cons.mp distinct
    have foreign : ∀ old ∈ rest, key old ≠ key first :=
      fun old listed same => fresh (same ▸ List.mem_map_of_mem listed)
    rw [keepHighest.insert] at member
    by_cases same : key first = key item
    · rw [if_pos same] at member
      rcases List.mem_cons.mp member with rfl | later
      · by_cases higher : priority first < priority item
        · rw [if_pos higher]
          refine Or.inl ⟨rfl, List.forall_mem_cons.mpr ⟨fun _ => higher, fun old listed sameKey => ?_⟩⟩
          exact (foreign old listed (sameKey.trans same.symm)).elim
        · rw [if_neg higher]
          exact Or.inr ⟨List.mem_cons_self, fun _ => Int.not_lt.mp higher⟩
      · refine Or.inr ⟨List.mem_cons_of_mem _ later, fun sameKey => ?_⟩
        exact (foreign other later (sameKey.symm.trans same.symm)).elim
    · rw [if_neg same] at member
      rcases List.mem_cons.mp member with rfl | later
      · exact Or.inr ⟨List.mem_cons_self, fun sameKey => (same sameKey.symm).elim⟩
      · rcases ih distinctRest later with ⟨own, higher⟩ | ⟨listed, notHigher⟩
        · exact Or.inl ⟨own, List.forall_mem_cons.mpr ⟨fun sameKey => (same sameKey).elim, higher⟩⟩
        · exact Or.inr ⟨List.mem_cons_of_mem _ listed, notHigher⟩

/-- Every item that is kept is the first one of the highest priority among those of its key. -/
theorem isHighest_of_mem_keepHighest (member : item ∈ keepHighest key priority items) :
    IsHighest key priority items item := by
  induction items using List.reverseRecOn generalizing item with
  | nil => cases member
  | append_singleton rest last ih =>
    rw [keepHighest_concat] at member
    rcases cases_of_mem_insert (keepHighest_distinct key priority rest).1 member with
      ⟨rfl, higher⟩ | ⟨kept, notHigher⟩
    · refine isHighest_last fun other listed same => ?_
      -- what is kept of the key is not lower than the item, and the last one is higher still
      have keyed : key other ∈ (keepHighest key priority rest).map key := by
        rw [map_key_keepHighest, mem_distinct]
        exact List.mem_map_of_mem listed
      obtain ⟨old, kept, sameKey⟩ := List.mem_map.mp keyed
      have notLower := (ih kept).le listed sameKey.symm
      have lower := higher old kept (sameKey.trans same)
      omega
    · exact (ih kept).concat notHigher

end Highest

namespace Engine

variable {rules : List Rule}

theorem ruleSet_perm (rules : List Rule) :
    (ruleSet rules).Perm (keepHighest Rule.id Rule.priority rules) :=
  List.mergeSort_perm _ _

/-- Sorting a set leaves the rules of one priority in their order. -/
theorem filter_ruleSet (rules : List Rule) (priority : Int) :
    (ruleSet rules).filter (·.priority = priority) =
      (keepHighest Rule.id Rule.priority rules).filter (·.priority = priority) := by
  let kept := keepHighest Rule.id Rule.priority rules
  have level : (kept.filter (·.priority = priority)).Pairwise fun rule other =>
      decide (other.priority ≤ rule.priority) = true := by
    refine List.pairwise_of_forall_mem_list fun rule first other second => ?_
    have same := of_decide_eq_true (List.mem_filter.mp first).2
    have sameToo := of_decide_eq_true (List.mem_filter.mp second).2
    exact decide_eq_true (by omega)
  have inside : (kept.filter (·.priority = priority)).Sublist (ruleSet rules) :=
    List.sublist_mergeSort priority_trans priority_total level List.filter_sublist
  have together : (kept.filter (·.priority = priority)).Sublist
      ((ruleSet rules).filter (·.priority = priority)) := by
    simpa using inside.filter (·.priority = priority)
  refine (together.eq_of_length ?_).symm
  exact ((ruleSet_perm rules).filter _).length_eq.symm

/-- Rules that are the set of given ones: one for every identity, the first one of the highest priority,
in the order of their priority and, where that is the same, in the order in which their identities come
first. -/
structure IsSetOf (set given : List Rule) : Prop where
  once : (set.map (·.id)).Nodup
  ids : ∀ id, id ∈ set.map (·.id) ↔ id ∈ given.map (·.id)
  highest : ∀ rule ∈ set, IsHighest Rule.id Rule.priority given rule
  descending : set.Pairwise fun rule other => other.priority ≤ rule.priority
  stable : set.Pairwise fun rule other => other.priority = rule.priority →
    (given.map (·.id)).idxOf rule.id < (given.map (·.id)).idxOf other.id

/-- A set of rules is the set of the rules that were given. -/
theorem isSetOf_ruleSet (rules : List Rule) : IsSetOf (ruleSet rules) rules where
  once := ruleSet_distinct rules
  ids id := by
    rw [((ruleSet_perm rules).map Rule.id).mem_iff, map_key_keepHighest, mem_distinct]
  highest rule member := isHighest_of_mem_keepHighest ((ruleSet_perm rules).mem_iff.mp member)
  descending := ruleSet_descending rules
  stable := by
    have ordered : (keepHighest Rule.id Rule.priority rules).Pairwise fun rule other =>
        (rules.map (·.id)).idxOf rule.id < (rules.map (·.id)).idxOf other.id := by
      rw [← List.pairwise_map (f := Rule.id) (R := fun id other =>
        (rules.map (·.id)).idxOf id < (rules.map (·.id)).idxOf other), map_key_keepHighest]
      exact distinct_pairwise _
    refine List.pairwise_iff_forall_sublist.mpr fun {rule other} inside same => ?_
    have level := inside.filter (·.priority = rule.priority)
    rw [filter_ruleSet, List.filter_cons_of_pos (by simp), List.filter_cons_of_pos (by simpa using same),
      List.filter_nil] at level
    exact List.pairwise_iff_forall_sublist.mp ordered (level.trans List.filter_sublist)

/-- A set has as many rules as there are identities. -/
theorem IsSetOf.length_eq {set given : List Rule} (isSet : IsSetOf set given) :
    set.length = (given.map (·.id)).toFinset.card := by
  rw [← List.length_map (f := Rule.id), ← List.toFinset_card_of_nodup isSet.once,
    List.toFinset.ext isSet.ids]

end Engine

end Obligations
