import Obligations.Settings.Overlay
import Mathlib.Data.List.Basic
import Mathlib.Data.List.Nodup

/-! # What is found in overlaid members

Where names are not repeated, a member laid over others is found by its name, and a member with another
name is found as before. A value is laid over one that is no map by taking its place.
-/

namespace Obligations

namespace Value

variable {members changes : List (String × Value)} {name : String}

theorem mem_of_lookup {value : Value} (found : members.lookup name = some value) :
    (name, value) ∈ members := by
  obtain ⟨before, after, rfl, _⟩ := List.lookup_eq_some_iff.mp found
  simp

theorem lookup_eq_none (absent : name ∉ members.map Prod.fst) : members.lookup name = none := by
  cases found : members.lookup name with
  | none => rfl
  | some value => exact (absent (List.mem_map_of_mem (f := Prod.fst) (mem_of_lookup found))).elim

theorem exists_lookup (listed : name ∈ members.map Prod.fst) :
    ∃ value, members.lookup name = some value := by
  cases found : members.lookup name with
  | some value => exact ⟨value, rfl⟩
  | none =>
    obtain ⟨member, inside, rfl⟩ := List.mem_map.mp listed
    have other := List.lookup_eq_none_iff.mp found member inside
    simp at other

theorem lookup_of_mem (once : (members.map Prod.fst).Nodup) {member : String × Value}
    (listed : member ∈ members) : members.lookup member.1 = some member.2 := by
  induction members with
  | nil => cases listed
  | cons first rest ih =>
    obtain ⟨fresh, onceRest⟩ := List.nodup_cons.mp once
    rw [List.lookup_cons]
    rcases List.mem_cons.mp listed with rfl | later
    · rw [beq_self_eq_true]
    · have different : member.1 ≠ first.1 := fun same => fresh (same ▸ List.mem_map_of_mem later)
      rw [beq_false_of_ne different]
      exact ih onceRest later

theorem lookup_setMember (key : String) (value : Value) (members : List (String × Value)) :
    (setMember key value members).lookup name = if name = key then some value else members.lookup name := by
  induction members with
  | nil =>
    rw [setMember, List.lookup_cons]
    by_cases same : name = key
    · simp [same]
    · rw [if_neg same, beq_false_of_ne same]
  | cons member rest ih =>
    obtain ⟨other, old⟩ := member
    rw [setMember]
    by_cases own : other = key
    · subst own
      rw [if_pos rfl, List.lookup_cons, List.lookup_cons]
      by_cases same : name = other
      · simp [same]
      · rw [if_neg same, beq_false_of_ne same]
    · rw [if_neg own, List.lookup_cons, List.lookup_cons, ih]
      by_cases same : name = other
      · subst same
        simp [own]
      · rw [beq_false_of_ne same]

/-- A value laid over one that is no map is there as it is. -/
theorem laidOver_of_flat {below value : Value} (flat : ∀ inner, below ≠ .map inner) :
    laidOver below value = value := by
  cases value with
  | map members =>
    cases below with
    | map inner => exact (flat inner rfl).elim
    | _ => rw [laidOver]; simp
  | _ => rw [laidOver]; simp

/-- A member of an overlay is the one on top, or the one below where there is none on top. -/
theorem lookup_overlay (once : (changes.map Prod.fst).Nodup)
    (flat : ∀ name ∈ changes.map Prod.fst, ∀ inner, members.lookup name ≠ some (.map inner)) :
    (overlay members changes).lookup name = (changes.lookup name).or (members.lookup name) := by
  induction changes generalizing members with
  | nil => rw [overlay_nil]; rfl
  | cons change rest ih =>
    obtain ⟨key, value⟩ := change
    obtain ⟨fresh, onceRest⟩ := List.nodup_cons.mp once
    obtain ⟨own, others⟩ := List.forall_mem_cons.mp flat
    have laid : overlay members ((key, value) :: rest) = overlay (setMember key value members) rest := by
      rw [overlay, member?]
      cases old : members.lookup key with
      | none => rfl
      | some below =>
        dsimp only
        rw [laidOver_of_flat fun inner same => own inner (by rw [old, same])]
    have flatRest : ∀ name ∈ rest.map Prod.fst, ∀ inner,
        (setMember key value members).lookup name ≠ some (.map inner) := by
      intro name listed inner
      have different : name ≠ key := fun same => fresh (same ▸ listed)
      rw [lookup_setMember, if_neg different]
      exact others name listed inner
    rw [laid, ih onceRest flatRest, lookup_setMember, List.lookup_cons]
    by_cases same : name = key
    · subst same
      have absent : rest.lookup name = none := lookup_eq_none fresh
      simp [absent]
    · rw [if_neg same, beq_false_of_ne same]

theorem nodup_setMember (once : (members.map Prod.fst).Nodup) (key : String) (value : Value) :
    ((setMember key value members).map Prod.fst).Nodup := by
  suffices keys : (setMember key value members).map Prod.fst =
      if key ∈ members.map Prod.fst then members.map Prod.fst else members.map Prod.fst ++ [key] by
    rw [keys]
    split
    next => exact once
    next fresh =>
      rw [← List.concat_eq_append]
      exact once.concat fresh
  clear once
  induction members with
  | nil => simp [setMember]
  | cons member rest ih =>
    obtain ⟨other, old⟩ := member
    rw [setMember]
    by_cases own : other = key
    · simp [own]
    · rw [if_neg own, List.map_cons, ih]
      by_cases listed : key ∈ rest.map Prod.fst
      · simp [listed]
      · simp [listed, Ne.symm own]

/-- An overlay has one member for every name if what is below has. -/
theorem nodup_overlay (once : (members.map Prod.fst).Nodup) (changes : List (String × Value)) :
    ((overlay members changes).map Prod.fst).Nodup := by
  induction changes generalizing members with
  | nil => rwa [overlay_nil]
  | cons change rest ih =>
    obtain ⟨key, value⟩ := change
    rw [overlay]
    split
    next => exact ih (nodup_setMember once _ _)
    next => exact ih (nodup_setMember once _ _)

end Value

end Obligations
