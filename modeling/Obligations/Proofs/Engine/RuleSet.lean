import Obligations.Engine.Basic
import Mathlib.Data.List.Nodup

/-! # Rule sets

Of the rules that are loaded, a set keeps one for every identity.
-/

namespace Obligations

section Highest

variable {α κ : Type} [DecidableEq κ] (key : α → κ) (priority : α → Int)

/-- One more item adds its key at the end, unless the key is there. -/
theorem map_key_insert (kept : List α) (item : α) :
    (keepHighest.insert key priority kept item).map key =
      if key item ∈ kept.map key then kept.map key else kept.map key ++ [key item] := by
  induction kept with
  | nil => simp [keepHighest.insert]
  | cons other rest ih =>
    rw [keepHighest.insert]
    by_cases same : key other = key item
    · have listed : key item ∈ (other :: rest).map key := by simp [same]
      rw [if_pos same, if_pos listed, List.map_cons, List.map_cons]
      congr 1
      split
      next => exact same.symm
      next => rfl
    · rw [if_neg same, List.map_cons, List.map_cons, ih]
      by_cases listed : key item ∈ rest.map key
      · rw [if_pos listed, if_pos (List.mem_cons_of_mem _ listed)]
      · rw [if_neg listed, if_neg (by simpa [Ne.symm same] using listed), List.cons_append]

/-- An item that is kept after one more was there before or is the one. -/
theorem mem_of_mem_insert {kept : List α} {item other : α}
    (member : other ∈ keepHighest.insert key priority kept item) : other = item ∨ other ∈ kept := by
  induction kept with
  | nil => exact Or.inl (List.mem_singleton.mp member)
  | cons first rest ih =>
    rw [keepHighest.insert] at member
    split at member
    · rcases List.mem_cons.mp member with rfl | member
      · split
        · exact Or.inl rfl
        · exact Or.inr List.mem_cons_self
      · exact Or.inr (List.mem_cons_of_mem _ member)
    · rcases List.mem_cons.mp member with rfl | member
      · exact Or.inr List.mem_cons_self
      · exact (ih member).imp_right (List.mem_cons_of_mem _)

/-- The kept items have distinct keys, and all of them were given. -/
theorem keepHighest_distinct (items : List α) :
    ((keepHighest key priority items).map key).Nodup ∧ keepHighest key priority items ⊆ items := by
  suffices kept : ∀ kept : List α, (kept.map key).Nodup →
      ((items.foldl (keepHighest.insert key priority) kept).map key).Nodup ∧
        items.foldl (keepHighest.insert key priority) kept ⊆ kept ++ items from
    kept [] List.nodup_nil
  induction items with
  | nil => intro kept distinct; simpa using distinct
  | cons item rest ih =>
    intro kept distinct
    have next : ((keepHighest.insert key priority kept item).map key).Nodup := by
      rw [map_key_insert]
      split
      next => exact distinct
      next fresh => exact List.nodup_append.mpr ⟨distinct, List.nodup_singleton _, by simpa using fresh⟩
    refine ⟨(ih _ next).1, fun other member => ?_⟩
    rcases List.mem_append.mp ((ih _ next).2 member) with member | member
    · rcases mem_of_mem_insert key priority member with rfl | member <;> simp [*]
    · simp [member]

/-- An item of a new key is added at the end. -/
theorem insert_of_fresh {kept : List α} {item : α} (fresh : key item ∉ kept.map key) :
    keepHighest.insert key priority kept item = kept ++ [item] := by
  induction kept with
  | nil => rfl
  | cons other rest ih =>
    rw [List.map_cons, List.mem_cons, not_or] at fresh
    rw [keepHighest.insert, if_neg (Ne.symm fresh.1), ih fresh.2, List.cons_append]

/-- Items of distinct keys are all kept. -/
theorem keepHighest_of_distinct {items : List α} (distinct : (items.map key).Nodup) :
    keepHighest key priority items = items := by
  suffices grown : ∀ kept : List α, ((kept ++ items).map key).Nodup →
      items.foldl (keepHighest.insert key priority) kept = kept ++ items from grown [] distinct
  clear distinct
  induction items with
  | nil => simp
  | cons item rest ih =>
    intro kept distinct
    have fresh : key item ∉ kept.map key := by
      rw [List.map_append, List.map_cons] at distinct
      exact fun member => (List.nodup_append.mp distinct).2.2 _ member _ List.mem_cons_self rfl
    rw [List.foldl_cons, insert_of_fresh key priority fresh, ih _ (by simpa using distinct),
      List.append_assoc, List.singleton_append]

end Highest

private theorem mapM_condition? (conditions : List Condition) :
    conditions.mapM (Slot.condition? ∘ Slot.condition) = some conditions := by
  induction conditions with
  | nil => rfl
  | cons condition rest ih => rw [List.mapM_cons, ih]; rfl

/-- A rule that is drafted is the rule again. -/
@[simp] theorem Rule.toRule?_toDraft (rule : Rule) : rule.toDraft.toRule? = some rule := by
  rw [Draft.toRule?, Rule.toDraft]
  simp [mapM_condition?]

theorem Rule.filterMap_toRule? (rules : List Rule) :
    (rules.map (·.toDraft)).filterMap (·.toRule?) = rules := by
  rw [List.filterMap_map]
  simp

namespace Draft

/-- Whether nothing is wrong with a draft. -/
def isUsable (draft : Draft) : Bool :=
  draft.check.toOption.any (·.isValid)

end Draft

namespace Engine

theorem accept_eq_ok {draft : Draft} (usable : draft.isUsable = true) :
    accept draft = .ok draft.toRule? := by
  rw [Draft.isUsable] at usable
  rw [accept]
  cases checked : draft.check with
  | error problem => rw [checked] at usable; cases usable
  | ok report =>
    rw [checked] at usable
    show (if report.isValid then _ else _) = _
    rw [if_pos (by simpa [Except.toOption] using usable)]
    rfl

private theorem mapM_accept {drafts : List Draft}
    (usable : ∀ draft ∈ drafts, draft.isUsable = true) :
    drafts.mapM accept = .ok (drafts.map (·.toRule?)) := by
  induction drafts with
  | nil => rfl
  | cons draft rest ih =>
    rw [List.mapM_cons, accept_eq_ok (usable draft List.mem_cons_self),
      ih fun other member => usable other (List.mem_cons_of_mem _ member)]
    rfl

/-- Drafts with which nothing is wrong become the set of their rules. -/
theorem load_eq_ok {engine : Engine} {drafts : List Draft}
    (usable : ∀ draft ∈ drafts, draft.isUsable = true) :
    engine.load drafts =
      .ok { engine with
        rules := ruleSet (drafts.filterMap (·.toRule?))
        cache := engine.cache.clear } := by
  rw [load, mapM_accept usable]
  show Except.ok _ = _
  rw [List.filterMap_map]
  rfl

/-- Rules with which nothing is wrong are loaded as their set. -/
theorem load_toDraft {settings : EngineSettings} {rules sorted : List Rule}
    (usable : ∀ rule ∈ rules, rule.toDraft.isUsable = true) (order : ruleSet rules = sorted) :
    (ofSettings settings).load (rules.map (·.toDraft)) =
      .ok { ofSettings settings with rules := sorted } := by
  rw [load_eq_ok (List.forall_mem_map.mpr usable), Rule.filterMap_toRule?, order]
  rfl

/-- The rules of a set have distinct identities. -/
theorem ruleSet_distinct (rules : List Rule) : ((ruleSet rules).map (·.id)).Nodup :=
  ((List.mergeSort_perm _ _).map _).nodup_iff.mpr (keepHighest_distinct Rule.id Rule.priority rules).1

/-- The rules of a set whose identities are distinct are the rules that were given. -/
theorem mem_ruleSet_of_distinct {rules : List Rule} (distinct : (rules.map (·.id)).Nodup)
    {rule : Rule} : rule ∈ ruleSet rules ↔ rule ∈ rules := by
  rw [ruleSet, keepHighest_of_distinct Rule.id Rule.priority distinct]
  exact (List.mergeSort_perm _ _).mem_iff

theorem priority_trans (first second third : Rule) :
    decide (second.priority ≤ first.priority) = true →
      decide (third.priority ≤ second.priority) = true →
        decide (third.priority ≤ first.priority) = true := by
  simp only [decide_eq_true_eq]
  omega

theorem priority_total (first second : Rule) :
    (decide (second.priority ≤ first.priority) || decide (first.priority ≤ second.priority)) = true := by
  simp only [Bool.or_eq_true, decide_eq_true_eq]
  omega

/-- The rules of a set stand in the order of their priority, those of the highest first. -/
theorem ruleSet_descending (rules : List Rule) :
    (ruleSet rules).Pairwise fun rule other => other.priority ≤ rule.priority :=
  (List.pairwise_mergeSort priority_trans priority_total _).imp fun related => of_decide_eq_true related

/-- Loading replaces the rules and clears the cache. -/
theorem of_load_eq_ok {engine loaded : Engine} {drafts : List Draft}
    (accepted : engine.load drafts = .ok loaded) :
    ∃ rules, loaded = { engine with rules := ruleSet rules, cache := engine.cache.clear } := by
  rw [load] at accepted
  cases checked : drafts.mapM accept with
  | error problem => rw [checked] at accepted; cases accepted
  | ok rules =>
    rw [checked] at accepted
    cases accepted
    exact ⟨_, rfl⟩

theorem distinct_of_load {engine loaded : Engine} {drafts : List Draft}
    (accepted : engine.load drafts = .ok loaded) : (loaded.rules.map (·.id)).Nodup := by
  obtain ⟨rules, rfl⟩ := of_load_eq_ok accepted
  exact ruleSet_distinct rules

theorem descending_of_load {engine loaded : Engine} {drafts : List Draft}
    (accepted : engine.load drafts = .ok loaded) :
    loaded.rules.Pairwise fun rule other => other.priority ≤ rule.priority := by
  obtain ⟨rules, rfl⟩ := of_load_eq_ok accepted
  exact ruleSet_descending rules

end Engine

end Obligations
