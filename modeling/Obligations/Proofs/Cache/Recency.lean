import Obligations.Proofs.Cache
import Mathlib.Data.List.Dedup

/-! # The order of last use

Uses of a cache, one after another, each at a time of its own. The keys with entries are those that the order of
last use lists, each of them once, and they stand in it as they were last used. So storing a value never takes
away what is not there, and what a full cache gives up for a new key is the entry that was not used for the
longest time.
-/

namespace Obligations.Cache

/-- One use of a cache, at a time of its own. -/
inductive Use (α : Type) where
  | get (now : Rat) (key : String)
  | set (now : Rat) (key : String) (value : α) (lifetime : Option Lifetime)
  | invalidate (key : String)
  | clear
  | items (now : Rat)
  | size (now : Rat)

/-- Whether a use looks a key up. -/
def Use.isGet {α : Type} : Use α → Bool
  | .get .. => true
  | _ => false

/-- Whether one key was last used before another one was. -/
def LastUsedBefore (touched : List String) (key other : String) : Prop :=
  ∃ earlier later, touched = earlier ++ key :: later ∧ key ∉ later ∧ other ∈ later

/-- Without repetitions each key stands where it was last used. -/
theorem LastUsedBefore.of_sublist {touched : List String} {key other : String}
    (sublist : [key, other].Sublist touched.dedup) : LastUsedBefore touched key other := by
  induction touched with
  | nil => cases sublist
  | cons first rest ih =>
    by_cases again : first ∈ rest
    · rw [List.dedup_cons_of_mem again] at sublist
      obtain ⟨earlier, later, split, last, member⟩ := ih sublist
      exact ⟨first :: earlier, later, by rw [split, List.cons_append], last, member⟩
    · rw [List.dedup_cons_of_notMem again] at sublist
      cases sublist with
      | cons _ inside =>
        obtain ⟨earlier, later, split, last, member⟩ := ih inside
        exact ⟨first :: earlier, later, by rw [split, List.cons_append], last, member⟩
      | cons_cons _ inside =>
        exact ⟨[], rest, rfl, again, List.mem_dedup.mp (List.singleton_sublist.mp inside)⟩

theorem dedup_concat (touched : List String) (key : String) :
    (touched ++ [key]).dedup = touched.dedup.filter (· != key) ++ [key] := by
  induction touched with
  | nil => rfl
  | cons first rest ih =>
    by_cases again : first ∈ rest
    · rw [List.cons_append, List.dedup_cons_of_mem (List.mem_append_left _ again),
        List.dedup_cons_of_mem again, ih]
    by_cases same : first = key
    · subst same
      rw [List.cons_append, List.dedup_cons_of_mem (by simp), List.dedup_cons_of_notMem again,
        List.filter_cons_of_neg (by simp), ih]
    · rw [List.cons_append, List.dedup_cons_of_notMem (by simp [again, same]),
        List.dedup_cons_of_notMem again, List.filter_cons_of_pos (by simpa using same), ih, List.cons_append]

variable {α : Type}

/-- The cache after a use. -/
def after (cache : Cache α) : Use α → Cache α
  | .get now key => (cache.get now key).2
  | .set now key value lifetime => cache.set now key value lifetime
  | .invalidate key => cache.erase key
  | .clear => cache.clear
  | .items now => (cache.items now).2
  | .size now => (cache.size now).2

/-- The cache after uses, one after another. -/
def run (cache : Cache α) (uses : List (Use α)) : Cache α :=
  uses.foldl after cache

/-- The key that a use makes the one used last: the one that is stored, or the one that is found. -/
def touched? (cache : Cache α) : Use α → Option String
  | .get now key => (cache.live? now key).map fun _ => key
  | .set _ key _ _ => some key
  | _ => none

/-- The keys that uses make the last one, in their order. -/
def touches (cache : Cache α) : List (Use α) → List String
  | [] => []
  | use :: rest => (cache.touched? use).toList ++ (cache.after use).touches rest

section Strict

/-- Keys without one that has to be among them. -/
def takeOut? (order : List String) (key : String) : Option (List String) :=
  if key ∈ order then some (order.erase key) else none

/-- The cache without the entry of the key that is first in the order of last use. There is nothing to give up
where that order is empty, or has no entry for its first key. -/
def evict? (cache : Cache α) : Option (Cache α) :=
  match cache.order with
  | [] => none
  | oldest :: rest =>
    if cache.contains oldest then
      some { cache with entries := cache.entries.filter (·.1 != oldest), order := rest }
    else none

/-- A value stored by steps that fail where what they take away is not there. -/
def store? (cache : Cache α) (now : Rat) (key : String) (value : α) (lifetime : Option Lifetime) :
    Option (Cache α) := do
  let order ← if cache.contains key then takeOut? cache.order key else some cache.order
  let aside := { cache with order }
  let room ←
    if cache.capacity ≤ (cache.entries.length : Int) && !cache.contains key then aside.evict?
    else some aside
  some { room with
    entries := place key ⟨value, (lifetime.getD cache.lifetime).expiry now⟩ room.entries
    order := room.order ++ [key] }

/-- The cache after a use, nothing where the use fails. Storing is the only use that takes something away without
a look whether it is there. -/
def after? (cache : Cache α) : Use α → Option (Cache α)
  | .set now key value lifetime => cache.store? now key value lifetime
  | use => some (cache.after use)

end Strict

/-- Whether the entries of a cache and the order of last use tell of the same keys, after keys have been used one
after another. -/
structure IsKept (cache : Cache α) (touched : List String) : Prop where
  distinct : cache.keys.Nodup
  same : ∀ key, key ∈ cache.order ↔ key ∈ cache.keys
  recent : cache.order.Sublist touched.dedup
  small : (cache.entries.length : Int) ≤ cache.capacity

section Steps

variable (cache : Cache α) (now : Rat) (key : String)

theorem length_keys : cache.keys.length = cache.entries.length :=
  List.length_map ..

theorem filter_ne_of_notMem {names : List String} {key : String} (absent : key ∉ names) :
    names.filter (· != key) = names :=
  List.filter_eq_self.mpr fun _ member => bne_iff_ne.mpr (ne_of_mem_of_not_mem member absent)

theorem keys_erase : (cache.erase key).keys = cache.keys.filter (· != key) := by
  rw [erase]
  split
  next => rw [keys, keys, List.filter_map]; rfl
  next absent => exact (filter_ne_of_notMem ((cache.contains_iff_mem_keys key).not.mp absent)).symm

theorem prune_induction {motive : Cache α → Prop} (start : motive cache)
    (step : ∀ cache key, motive cache → motive (cache.erase key)) : motive (cache.prune now) := by
  rw [prune]
  exact List.foldlRecOn _ _ start fun cache kept entry _ => step cache entry.1 kept

@[simp] theorem capacity_prune : (cache.prune now).capacity = cache.capacity :=
  cache.prune_induction now (motive := (·.capacity = cache.capacity)) rfl
    fun other key same => (other.capacity_erase key).trans same

theorem capacity_after (use : Use α) : (cache.after use).capacity = cache.capacity := by
  cases use with
  | get now key => exact cache.capacity_get now key
  | set now key value lifetime => exact cache.capacity_set now key value lifetime
  | invalidate key => exact cache.capacity_erase key
  | clear => rfl
  | items now => exact cache.capacity_prune now
  | size now => exact cache.capacity_prune now

/-- How many keys have been looked up, found or not. -/
def lookups : Nat :=
  cache.hits + cache.misses

@[simp] theorem lookups_erase : (cache.erase key).lookups = cache.lookups := by
  rw [erase]; split <;> rfl

@[simp] theorem lookups_prune : (cache.prune now).lookups = cache.lookups :=
  cache.prune_induction now (motive := (·.lookups = cache.lookups)) rfl
    fun other key same => (other.lookups_erase key).trans same

@[simp] theorem lookups_set (value : α) (lifetime : Option Lifetime) :
    (cache.set now key value lifetime).lookups = cache.lookups := by
  rw [set, set?, makeRoom?]
  split
  next => rfl
  next =>
    cases cache.order with
    | nil => rfl
    | cons oldest rest => exact cache.lookups_erase oldest

@[simp] theorem lookups_get : (cache.get now key).2.lookups = cache.lookups + 1 := by
  rcases cache.get_cases now key with ⟨_, looked⟩ | ⟨_, _, _, looked⟩ | ⟨_, _, _, looked⟩
  · rw [looked]; rfl
  · have hits : (cache.erase key).hits = cache.hits := by rw [erase]; split <;> rfl
    rw [looked, lookups, lookups, ← hits]
    rfl
  · rw [looked, lookups, lookups, Nat.add_right_comm]

theorem lookups_after (use : Use α) :
    (cache.after use).lookups = cache.lookups + if use.isGet then 1 else 0 := by
  cases use with
  | get now key => exact cache.lookups_get now key
  | set now key value lifetime => exact cache.lookups_set now key value lifetime
  | invalidate key => exact cache.lookups_erase key
  | clear => rfl
  | items now => exact cache.lookups_prune now
  | size now => exact cache.lookups_prune now

variable {cache key}

theorem order_set_of_hasRoom (room : cache.HasRoom key) (value : α) (lifetime : Option Lifetime) :
    (cache.set now key value lifetime).order = cache.order.erase key ++ [key] := by
  rw [set, set?, makeRoom?, if_pos (by simpa [HasRoom] using room)]
  rfl

/-- Storing a value in a full cache is storing it when the first key in the order of last use is gone. -/
theorem set_of_full {oldest : String} {rest : List String} (full : ¬ cache.HasRoom key)
    (order : cache.order = oldest :: rest) (room : (cache.erase oldest).HasRoom key) (value : α)
    (lifetime : Option Lifetime) :
    cache.set now key value lifetime = (cache.erase oldest).set now key value lifetime := by
  rw [set, set?, makeRoom?, if_neg (by simpa [HasRoom] using full), order, set, set?, makeRoom?,
    if_pos (by simpa [HasRoom] using room), lifetime_erase]
  rfl

end Steps

namespace IsKept

variable {cache : Cache α} {touched : List String}

theorem order_nodup (kept : cache.IsKept touched) : cache.order.Nodup :=
  (List.nodup_dedup touched).sublist kept.recent

theorem erase (kept : cache.IsKept touched) (key : String) : (cache.erase key).IsKept touched := by
  have order : (cache.erase key).order = cache.order.filter (· != key) := by
    rw [Cache.erase]
    split
    next => exact kept.order_nodup.erase_eq_filter key
    next absent =>
      rw [contains_iff_mem_keys, ← kept.same] at absent
      exact (filter_ne_of_notMem absent).symm
  refine ⟨kept.distinct.sublist (cache.keys_erase_sublist key), fun other => ?_, ?_, ?_⟩
  · rw [order, keys_erase, List.mem_filter, List.mem_filter, kept.same]
  · rw [order]
    exact List.filter_sublist.trans kept.recent
  · have fewer := (cache.keys_erase_sublist key).length_le
    have small := kept.small
    rw [length_keys, length_keys] at fewer
    rw [capacity_erase]
    omega

theorem prune (kept : cache.IsKept touched) (now : Rat) : (cache.prune now).IsKept touched :=
  cache.prune_induction now (motive := (·.IsKept touched)) kept fun _ key kept => kept.erase key

theorem clear (kept : cache.IsKept touched) : cache.clear.IsKept touched where
  distinct := List.nodup_nil
  same := fun _ => Iff.rfl
  recent := List.nil_sublist _
  small := Int.le_trans (by simp [Cache.clear]) kept.small

/-- A key that is used goes from where it stood in the order of last use to its end. -/
theorem recent_touch (kept : cache.IsKept touched) (key : String) :
    (cache.order.erase key ++ [key]).Sublist (touched ++ [key]).dedup := by
  rw [dedup_concat, kept.order_nodup.erase_eq_filter]
  exact (kept.recent.filter _).append_right [key]

theorem get (kept : cache.IsKept touched) (now : Rat) (key : String) :
    (cache.get now key).2.IsKept (touched ++ (cache.touched? (.get now key)).toList) := by
  rw [touched?]
  rcases cache.get_cases now key with ⟨missing, looked⟩ | ⟨entry, stored, expired, looked⟩ |
    ⟨entry, stored, expired, looked⟩
  · have dead : cache.live? now key = none := by simp [live?, missing]
    rw [looked, dead, Option.map_none, Option.toList_none, List.append_nil]
    exact ⟨kept.distinct, kept.same, kept.recent, kept.small⟩
  · have dead : cache.live? now key = none := by simp [live?, stored, expired]
    have without := kept.erase key
    rw [looked, dead, Option.map_none, Option.toList_none, List.append_nil]
    exact ⟨without.distinct, without.same, without.recent, without.small⟩
  · have live : cache.live? now key = some entry.value := by simp [live?, stored, expired]
    have listed : key ∈ cache.keys :=
      (cache.contains_iff_mem_keys key).mp (by rw [contains, stored]; rfl)
    rw [looked, live, Option.map_some, Option.toList_some]
    refine ⟨kept.distinct, fun other => ?_, kept.recent_touch key, kept.small⟩
    rw [List.mem_append, List.mem_singleton, kept.order_nodup.mem_erase_iff, kept.same]
    by_cases same : other = key
    · subst same; simpa [keys] using listed
    · simp [same, keys]

theorem set_of_hasRoom (kept : cache.IsKept touched) (now : Rat) {key : String} (room : cache.HasRoom key)
    (value : α) (lifetime : Option Lifetime) :
    (cache.set now key value lifetime).IsKept (touched ++ [key]) := by
  have order := order_set_of_hasRoom now room value lifetime
  have keys := keys_set_of_hasRoom now room value lifetime
  refine ⟨?_, fun other => ?_, ?_, ?_⟩
  · rw [keys]
    split
    next => exact kept.distinct
    next absent => exact List.concat_eq_append ▸ kept.distinct.concat absent
  · rw [order, keys, List.mem_append, List.mem_singleton, kept.order_nodup.mem_erase_iff, kept.same]
    by_cases same : other = key
    · subst same; split <;> simp [*]
    · split <;> simp [same]
  · rw [order]
    exact kept.recent_touch key
  · have length := congrArg List.length keys
    have small := kept.small
    rw [capacity_set]
    by_cases listed : key ∈ cache.keys
    · rw [if_pos listed, length_keys, length_keys] at length
      omega
    · rw [if_neg listed, List.length_append, List.length_singleton, length_keys, length_keys] at length
      have space := room.resolve_left fun present => listed ((cache.contains_iff_mem_keys key).mp present)
      omega

/-- A full cache has a key to give up, and has room for another one without it. -/
theorem oldest_of_full (kept : cache.IsKept touched) (positive : 1 ≤ cache.capacity) {key : String}
    (full : ¬ cache.HasRoom key) :
    ∃ oldest rest, cache.order = oldest :: rest ∧ oldest ∈ cache.keys ∧ (cache.erase oldest).HasRoom key := by
  have many : ¬ (cache.entries.length : Int) < cache.capacity := fun space => full (Or.inr space)
  cases order : cache.order with
  | nil =>
    have none : cache.keys = [] :=
      List.eq_nil_iff_forall_not_mem.mpr fun key member => by
        have := (kept.same key).mpr member
        rw [order] at this
        cases this
    rw [List.map_eq_nil_iff.mp none] at many
    simp only [List.length_nil] at many
    omega
  | cons oldest rest =>
    have listed : oldest ∈ cache.keys := (kept.same oldest).mp (order ▸ List.mem_cons_self)
    refine ⟨oldest, rest, rfl, listed, Or.inr ?_⟩
    have fewer : (cache.erase oldest).keys.length < cache.keys.length := by
      rw [keys_erase]
      exact List.length_filter_lt_length_iff_exists.mpr ⟨oldest, listed, by simp⟩
    have small := kept.small
    rw [length_keys, length_keys] at fewer
    rw [capacity_erase]
    omega

theorem set (kept : cache.IsKept touched) (positive : 1 ≤ cache.capacity) (now : Rat) (key : String) (value : α)
    (lifetime : Option Lifetime) : (cache.set now key value lifetime).IsKept (touched ++ [key]) := by
  by_cases room : cache.HasRoom key
  · exact kept.set_of_hasRoom now room value lifetime
  · obtain ⟨oldest, rest, order, -, space⟩ := kept.oldest_of_full positive room
    rw [set_of_full now room order space]
    exact (kept.erase oldest).set_of_hasRoom now space value lifetime

/-- One use keeps the two records of a cache together. -/
theorem after (kept : cache.IsKept touched) (positive : 1 ≤ cache.capacity) (use : Use α) :
    (cache.after use).IsKept (touched ++ (cache.touched? use).toList) := by
  cases use with
  | get now key => exact kept.get now key
  | set now key value lifetime => exact kept.set positive now key value lifetime
  | invalidate key => exact (List.append_nil touched).symm ▸ kept.erase key
  | clear => exact (List.append_nil touched).symm ▸ kept.clear
  | items now => exact (List.append_nil touched).symm ▸ kept.prune now
  | size now => exact (List.append_nil touched).symm ▸ kept.prune now

/-- And so do uses one after another, whatever the times they take place at. -/
theorem run (kept : cache.IsKept touched) (positive : 1 ≤ cache.capacity) (uses : List (Use α)) :
    (cache.run uses).IsKept (touched ++ cache.touches uses) := by
  induction uses generalizing cache touched with
  | nil => simpa [Cache.run, touches] using kept
  | cons use rest ih =>
    have next := ih (kept.after positive use) (cache.capacity_after use ▸ positive)
    rwa [touches, ← List.append_assoc]

/-- Where the two records agree, storing a value finds everything that it takes away. -/
theorem store?_eq (kept : cache.IsKept touched) (positive : 1 ≤ cache.capacity) (now : Rat) (key : String)
    (value : α) (lifetime : Option Lifetime) :
    cache.store? now key value lifetime = some (cache.set now key value lifetime) := by
  by_cases present : cache.contains key = true
  · have listed : key ∈ cache.order := (kept.same key).mpr ((cache.contains_iff_mem_keys key).mp present)
    simp [store?, takeOut?, Cache.set, set?, makeRoom?, present, listed]
  have unlisted : key ∉ cache.order := fun member =>
    present ((cache.contains_iff_mem_keys key).mpr ((kept.same key).mp member))
  by_cases space : (cache.entries.length : Int) < cache.capacity
  · simp [store?, Cache.set, set?, makeRoom?, present, space, List.erase_of_not_mem unlisted,
      Int.not_le.mpr space]
  · have full : ¬ cache.HasRoom key := not_or.mpr ⟨present, space⟩
    obtain ⟨oldest, rest, order, listed, -⟩ := kept.oldest_of_full positive full
    have there : cache.contains oldest = true := (cache.contains_iff_mem_keys oldest).mpr listed
    have later : key ∉ rest := fun member => unlisted (order ▸ List.mem_cons_of_mem oldest member)
    have oldestThere : contains { cache with order := oldest :: rest } oldest = true := there
    simp [store?, evict?, Cache.set, set?, makeRoom?, Cache.erase, present, space, order, there, oldestThere,
      List.erase_of_not_mem later, Int.not_lt.mp space]

theorem after?_eq (kept : cache.IsKept touched) (positive : 1 ≤ cache.capacity) (use : Use α) :
    cache.after? use = some (cache.after use) := by
  cases use with
  | set now key value lifetime => exact kept.store?_eq positive now key value lifetime
  | _ => rfl

end IsKept

/-- What storing a value under a key does to the entries, after keys have been used one after another: the key
has the new entry, and at most one other is gone, that of the key used longest ago. It is gone exactly if the
key is a new one and the cache was full. -/
structure Stores (cache stored : Cache α) (touched : List String) (key : String) (entry : CacheEntry α)
    (evicted : Option String) : Prop where
  placed : stored.entry? key = some entry
  others : ∀ other, other ≠ key →
    stored.entry? other = if evicted = some other then none else cache.entry? other
  full : evicted.isSome ↔ key ∉ cache.keys ∧ cache.capacity ≤ (cache.entries.length : Int)
  oldest : ∀ gone, evicted = some gone →
    gone ∈ cache.keys ∧ ∀ other ∈ cache.keys, other ≠ gone → LastUsedBefore touched gone other

theorem IsKept.stores {cache : Cache α} {touched : List String} (kept : cache.IsKept touched)
    (positive : 1 ≤ cache.capacity) (now : Rat) (key : String) (value : α) (lifetime : Option Lifetime) :
    ∃ evicted, cache.Stores (cache.set now key value lifetime) touched key
      ⟨value, (lifetime.getD cache.lifetime).expiry now⟩ evicted := by
  by_cases room : cache.HasRoom key
  · refine ⟨none, ?_, fun other different => ?_, ?_, fun _ none => ?_⟩
    · rw [entry?_set_of_hasRoom now key room, if_pos rfl]
    · rw [entry?_set_of_hasRoom now other room, if_neg different, if_neg (by simp)]
    · rcases room with present | space
      · simp [(cache.contains_iff_mem_keys key).mp present]
      · simpa using fun _ => space
    · cases none
  · obtain ⟨oldest, rest, order, listed, space⟩ := kept.oldest_of_full positive room
    obtain ⟨absent, many⟩ := not_or.mp room
    rw [set_of_full now room order space]
    refine ⟨some oldest, ?_, fun other different => ?_, ?_, ?_⟩
    · rw [entry?_set_of_hasRoom now key space, if_pos rfl, lifetime_erase]
    · rw [entry?_set_of_hasRoom now other space, if_neg different, entry?_erase]
      simp [eq_comm]
    · rw [contains_iff_mem_keys] at absent
      simpa using ⟨absent, Int.not_lt.mp many⟩
    · rintro _ ⟨⟩
      refine ⟨listed, fun other member different => LastUsedBefore.of_sublist (.trans ?_ kept.recent)⟩
      have inside := (kept.same other).mpr member
      rw [order] at inside ⊢
      exact (List.singleton_sublist.mpr ((List.mem_cons.mp inside).resolve_left different)).cons_cons oldest

theorem capacity_run (cache : Cache α) (uses : List (Use α)) : (cache.run uses).capacity = cache.capacity := by
  induction uses generalizing cache with
  | nil => rfl
  | cons use rest ih => exact (ih (cache.after use)).trans (cache.capacity_after use)

theorem lookups_run (cache : Cache α) (uses : List (Use α)) :
    (cache.run uses).lookups = cache.lookups + uses.countP Use.isGet := by
  induction uses generalizing cache with
  | nil => rfl
  | cons use rest ih =>
    have next : (cache.run (use :: rest)).lookups = _ := ih (cache.after use)
    rw [next, lookups_after, List.countP_cons]
    omega

theorem isKept_empty (lifetime : Lifetime) {capacity : Int} (positive : 1 ≤ capacity) :
    (empty lifetime capacity : Cache α).IsKept [] :=
  ⟨List.nodup_nil, fun _ => Iff.rfl, List.Sublist.refl _, by simp only [empty, List.length_nil]; omega⟩

/-- Whatever a cache has been used for, at whatever times: the order of last use lists exactly the keys that have
entries, each once; there are no more of these than the cache can hold; every lookup has been counted once; no
use fails; and a value that is stored costs at most one other its entry, the one used longest ago, and that only
where a new key meets a full cache. -/
theorem run_spec (lifetime : Lifetime) (capacity : Int) (positive : 1 ≤ capacity) (uses : List (Use α)) :
    let start : Cache α := empty lifetime capacity
    let cache := start.run uses
    cache.order.Nodup ∧ cache.keys.Nodup ∧ (∀ key, key ∈ cache.order ↔ key ∈ cache.keys) ∧
      (cache.entries.length : Int) ≤ capacity ∧
      cache.hits + cache.misses = uses.countP Use.isGet ∧
      (∀ use, cache.after? use = some (cache.after use)) ∧
      ∀ now key value own, ∃ evicted,
        cache.Stores (cache.set now key value own) (start.touches uses) key
          ⟨value, (own.getD cache.lifetime).expiry now⟩ evicted := by
  intro start cache
  have kept : cache.IsKept (start.touches uses) := (isKept_empty lifetime positive).run positive uses
  have same : cache.capacity = capacity := start.capacity_run uses
  refine ⟨kept.order_nodup, kept.distinct, kept.same, same ▸ kept.small, ?_, fun use => ?_, ?_⟩
  · exact (start.lookups_run uses).trans (by simp [start, empty, lookups])
  · exact kept.after?_eq (same ▸ positive) use
  · exact kept.stores (same ▸ positive)

/-- Two keys, the first of them found once more, and a third one that is not there yet. -/
def threeKeys : List (Use Nat) :=
  [.set 0 "visa" 1 none, .set 1 "passport" 2 (some .endless), .get 2 "visa", .get 3 "report"]

/-- A third key takes the place of the one that was stored second but has not been used since. -/
theorem run_spec_threeKeys :
    let cache := (empty (.lasting 300) 2).run threeKeys
    cache.order = ["passport", "visa"] ∧ cache.order.Nodup ∧ cache.hits + cache.misses = 2 ∧
      ((cache.store? 4 "report" 3 none).map keys = some ["visa", "report"]) ∧
      LastUsedBefore ["visa", "passport", "visa"] "passport" "visa" := by
  obtain ⟨distinct, -, -, -, counted, goes, stores⟩ := run_spec (.lasting 300) 2 (by decide) threeKeys
  refine ⟨by decide +kernel, distinct, counted, ?_, ?_⟩
  · exact (congrArg (Option.map keys) (goes (.set 4 "report" 3 none))).trans (by decide +kernel)
  · obtain ⟨evicted, stored⟩ := stores 4 "report" 3 none
    obtain ⟨gone, found⟩ := Option.isSome_iff_exists.mp (stored.full.mpr (by decide +kernel))
    obtain ⟨listed, oldest⟩ := stored.oldest gone found
    have given : gone = "passport" := by
      by_contra other
      have kept := congrArg Option.isSome (stored.others "passport" (by decide))
      rw [found, if_neg (by simpa using other)] at kept
      exact absurd kept (by decide +kernel)
    have touched : (empty (.lasting 300) 2).touches threeKeys = ["visa", "passport", "visa"] := by
      decide +kernel
    rw [touched, given] at oldest
    exact oldest "visa" (by decide +kernel) (by decide)

end Obligations.Cache
