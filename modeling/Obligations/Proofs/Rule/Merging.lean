import Obligations.Proofs.Rule.Highest
import Mathlib.Data.List.Forall2

/-! # Items of several lists

Which items of several lists are kept depends on each of the lists only through the items that would be
kept of it alone.
-/

namespace Obligations

namespace keepHighest

variable {α κ : Type} [DecidableEq κ] {key : α → κ} {priority : α → Int}

theorem insert_cons_of_same {first item : α} (same : key first = key item) (rest : List α) :
    insert key priority (first :: rest) item =
      (if priority first < priority item then item else first) :: rest := by
  rw [insert, if_pos same]

theorem insert_cons_of_ne {first item : α} (apart : key first ≠ key item) (rest : List α) :
    insert key priority (first :: rest) item = first :: insert key priority rest item := by
  rw [insert, if_neg apart]

omit [DecidableEq κ] in
/-- Of two items of one key the one that counts has this key. -/
theorem key_stronger (priority : α → Int) {first item : α} (same : key first = key item) :
    key (if priority first < priority item then item else first) = key item := by
  split
  next => rfl
  next => exact same

/-- Of two items of one key that come one after the other the one counts that is kept of both. -/
theorem insert_insert_of_same {item last : α} (same : key item = key last) (kept : List α) :
    insert key priority (insert key priority kept item) last =
      insert key priority kept (if priority item < priority last then last else item) := by
  have stronger := key_stronger priority same
  induction kept with
  | nil => exact insert_cons_of_same same []
  | cons first rest ih =>
    by_cases own : key first = key item
    · have whole := own.trans same
      rw [insert_cons_of_same own, insert_cons_of_same ((key_stronger priority own).trans same),
        insert_cons_of_same (whole.trans stronger.symm)]
      congr 1
      split_ifs <;> first | rfl | omega
    · have apart : key first ≠ key last := same ▸ own
      rw [insert_cons_of_ne own, insert_cons_of_ne apart, insert_cons_of_ne (stronger.symm ▸ apart), ih]

/-- An item of a key that is there can change places with one of another key. -/
theorem insert_insert_of_ne {item last : α} (apart : key item ≠ key last) {kept : List α}
    (there : key item ∈ kept.map key) :
    insert key priority (insert key priority kept last) item =
      insert key priority (insert key priority kept item) last := by
  induction kept with
  | nil => cases there
  | cons first rest ih =>
    by_cases own : key first = key item
    · have foreign : key first ≠ key last := own ▸ apart
      have kept : key (if priority first < priority item then item else first) ≠ key last :=
        key_stronger priority own ▸ apart
      rw [insert_cons_of_ne foreign, insert_cons_of_same own, insert_cons_of_same own,
        insert_cons_of_ne kept]
    · have later : key item ∈ rest.map key := by simpa [Ne.symm own] using there
      by_cases other : key first = key last
      · have kept : key (if priority first < priority last then last else first) ≠ key item :=
          key_stronger priority other ▸ apart.symm
        rw [insert_cons_of_same other, insert_cons_of_ne own, insert_cons_of_ne kept,
          insert_cons_of_same other]
      · rw [insert_cons_of_ne other, insert_cons_of_ne own, insert_cons_of_ne own,
          insert_cons_of_ne other, ih later]

/-- An item of a key that is there can as well come before items of other keys. -/
theorem foldl_insert_of_notMem {item : α} {items kept : List α} (there : key item ∈ kept.map key)
    (foreign : key item ∉ items.map key) :
    items.foldl (insert key priority) (insert key priority kept item) =
      insert key priority (items.foldl (insert key priority) kept) item := by
  induction items generalizing kept with
  | nil => rfl
  | cons first rest ih =>
    rw [List.map_cons, List.mem_cons, not_or] at foreign
    have still : key item ∈ (insert key priority kept first).map key := by
      rw [map_key_insert]
      split
      next => exact there
      next => exact List.mem_append_left _ there
    rw [List.foldl_cons, List.foldl_cons, ← insert_insert_of_ne foreign.1 there, ih still foreign.2]

/-- An item that is added to others can as well come behind them. -/
theorem foldl_insert {items : List α} (distinct : (items.map key).Nodup) (kept : List α) (item : α) :
    (insert key priority items item).foldl (insert key priority) kept =
      insert key priority (items.foldl (insert key priority) kept) item := by
  induction items generalizing kept with
  | nil => rfl
  | cons first rest ih =>
    obtain ⟨fresh, distinctRest⟩ := List.nodup_cons.mp distinct
    by_cases own : key first = key item
    · have there : key item ∈ (insert key priority kept first).map key := by
        rw [map_key_insert, own]
        split
        next listed => exact listed
        next => exact List.mem_append_right _ (List.mem_singleton_self _)
      rw [insert_cons_of_same own, List.foldl_cons, ← insert_insert_of_same own,
        foldl_insert_of_notMem there (own ▸ fresh)]
      rfl
    · rw [insert_cons_of_ne own, List.foldl_cons, ih distinctRest]
      rfl

/-- Items are kept as if only those had come that are kept of them alone. -/
theorem foldl_keepHighest (items kept : List α) :
    (keepHighest key priority items).foldl (insert key priority) kept =
      items.foldl (insert key priority) kept := by
  induction items using List.reverseRecOn with
  | nil => rfl
  | append_singleton rest last ih =>
    rw [keepHighest_concat, foldl_insert (keepHighest_distinct key priority rest).1, ih,
      List.foldl_append]
    rfl

/-- What is kept of several lists depends on each of them through what is kept of it alone. -/
theorem keepHighest_flatten (lists : List (List α)) :
    keepHighest key priority (lists.map (keepHighest key priority)).flatten =
      keepHighest key priority lists.flatten := by
  have kept : ∀ kept : List α,
      (lists.map (keepHighest key priority)).flatten.foldl (insert key priority) kept =
        lists.flatten.foldl (insert key priority) kept := by
    induction lists with
    | nil => exact fun kept => rfl
    | cons first rest ih =>
      intro kept
      rw [List.map_cons, List.flatten_cons, List.flatten_cons, List.foldl_append, List.foldl_append,
        foldl_keepHighest, ih]
  exact kept []

/-- Merging two lists in stages is merging them at once. -/
theorem keepHighest_append (first second : List α) :
    keepHighest key priority (first ++ second) =
      keepHighest key priority (keepHighest key priority first ++ keepHighest key priority second) := by
  have staged : keepHighest key priority _ = _ := keepHighest_flatten [first, second]
  simpa using staged.symm

section Related

variable {β κ' : Type} [DecidableEq κ'] {keyOf : β → κ'} {priorityOf : β → Int} {related : α → β → Prop}
  (sameKey : ∀ item image other imageToo, related item image → related other imageToo →
    (key item = key other ↔ keyOf image = keyOf imageToo))
  (samePriority : ∀ item image, related item image → priority item = priorityOf image)

include sameKey samePriority

theorem forall₂_insert {kept : List α} {images : List β} {item : α} {image : β}
    (each : List.Forall₂ related kept images) (one : related item image) :
    List.Forall₂ related (insert key priority kept item) (insert keyOf priorityOf images image) := by
  induction each with
  | nil => exact .cons one .nil
  | cons first rest ih =>
    rename_i old oldImage others imagesToo
    by_cases own : key old = key item
    · have ownToo := (sameKey _ _ _ _ first one).mp own
      rw [insert_cons_of_same own, insert_cons_of_same ownToo, ← samePriority _ _ first,
        ← samePriority _ _ one]
      refine .cons ?_ rest
      split
      next => exact one
      next => exact first
    · have apart : keyOf oldImage ≠ keyOf image := fun same => own ((sameKey _ _ _ _ first one).mpr same)
      rw [insert_cons_of_ne own, insert_cons_of_ne apart]
      exact .cons first ih

/-- Items that are told apart in the same way and have the same priorities are kept alike. -/
theorem forall₂_keepHighest {items : List α} {images : List β} (each : List.Forall₂ related items images) :
    List.Forall₂ related (keepHighest key priority items) (keepHighest keyOf priorityOf images) := by
  suffices grown : ∀ kept keptToo, List.Forall₂ related kept keptToo →
      List.Forall₂ related (items.foldl (insert key priority) kept)
        (images.foldl (insert keyOf priorityOf) keptToo) from grown [] [] .nil
  induction each with
  | nil => exact fun _ _ same => same
  | cons one _ ih =>
    intro kept keptToo same
    exact ih _ _ (forall₂_insert sameKey samePriority same one)

end Related

/-- What changes neither keys nor priorities changes nothing about which items are kept. -/
theorem keepHighest_map (change : α → α) (sameKey : ∀ item, key (change item) = key item)
    (samePriority : ∀ item, priority (change item) = priority item) (items : List α) :
    keepHighest key priority (items.map change) = (keepHighest key priority items).map change := by
  have changed : List.Forall₂ (fun item image => change item = image) items (items.map change) := by
    rw [List.forall₂_map_right_iff]
    exact List.forall₂_same.mpr fun _ _ => rfl
  have kept : List.Forall₂ (fun item image => change item = image) (keepHighest key priority items)
      (keepHighest key priority (items.map change)) := by
    refine forall₂_keepHighest ?_ ?_ changed
    · rintro item _ other _ rfl rfl
      rw [sameKey, sameKey]
    · rintro item _ rfl
      rw [samePriority]
  rw [← List.forall₂_map_left_iff, List.forall₂_eq_eq_eq] at kept
  exact kept.symm

end keepHighest

end Obligations
