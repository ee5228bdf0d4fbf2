import Obligations.Proofs.Cache.Recency
import Mathlib.Data.List.DropRight

/-! # What a cache remembers

A cache against the record of what it has been used for, on a clock that never goes back. Whatever is found under a
key has been stored there by the last use that stored or dropped anything under it, for a lifetime that is not over.
In return it is found as long as fewer other keys have been stored or found, since the key itself was for the last
time, than the cache has places. Entries whose lifetime is over take part in this: they hold their places until they
are looked up, listed or given up.
-/

namespace Obligations.Cache

variable {α : Type}

/-- The time at which a use looks at the clock, if it does. -/
def Use.time? : Use α → Option Rat
  | .get now _ | .set now .. | .items now | .size now => some now
  | .invalidate _ | .clear => none

/-- Whether uses take place on a clock that never goes back. -/
def AreInOrder (uses : List (Use α)) : Prop :=
  (uses.filterMap Use.time?).Pairwise (· ≤ ·)

instance (uses : List (Use α)) : Decidable (AreInOrder uses) :=
  inferInstanceAs (Decidable (List.Pairwise _ _))

/-- Whether a use stores or drops something under a key, whatever there is. -/
def Use.changes (key : String) : Use α → Bool
  | .set _ other .. | .invalidate other => other == key
  | .clear => true
  | _ => false

/-- The last use that has stored or dropped something under a key. -/
def lastChange? (uses : List (Use α)) (key : String) : Option (Use α) :=
  (uses.filter (·.changes key)).getLast?

/-- The keys that have been used since one of them was for the last time. -/
def usedSince (touched : List String) (key : String) : List String :=
  touched.rtakeWhile (· != key)

section Records

variable {uses : List (Use α)} {use : Use α} {key other : String} {since now : Rat} {value : α}
  {own : Option Lifetime}

theorem AreInOrder.of_append {later : List (Use α)} (ordered : AreInOrder (uses ++ later)) : AreInOrder uses := by
  rw [AreInOrder, List.filterMap_append] at ordered
  exact (List.pairwise_append.mp ordered).1

/-- Nothing has happened after what happens next. -/
theorem AreInOrder.le (ordered : AreInOrder (uses ++ [use])) {earlier : Use α} (listed : earlier ∈ uses)
    (first : earlier.time? = some since) (second : use.time? = some now) : since ≤ now := by
  rw [AreInOrder, List.filterMap_append] at ordered
  exact (List.pairwise_append.mp ordered).2.2 since (List.mem_filterMap.mpr ⟨earlier, listed, first⟩) now
    (by simp [second])

theorem lastChange?_concat (uses : List (Use α)) (use : Use α) (key : String) :
    lastChange? (uses ++ [use]) key = if use.changes key then some use else lastChange? uses key := by
  rw [lastChange?, List.filter_append]
  cases changed : use.changes key with
  | true => rw [List.filter_cons_of_pos changed, List.filter_nil, List.getLast?_concat, if_pos rfl]
  | false => simp [List.filter_cons_of_neg, changed, lastChange?]

theorem usedSince_concat_of_ne (touched : List String) (different : other ≠ key) :
    usedSince (touched ++ [other]) key = usedSince touched key ++ [other] :=
  List.rtakeWhile_concat_pos _ _ _ (by simpa using different)

/-- A key that was last used before another one was has seen this one used since. -/
theorem LastUsedBefore.mem_usedSince {touched : List String} (before : LastUsedBefore touched key other) :
    other ∈ usedSince touched key := by
  obtain ⟨earlier, later, rfl, last, member⟩ := before
  induction later using List.reverseRecOn with
  | nil => cases member
  | append_singleton later final ih =>
    have different : final ≠ key := by
      rintro rfl
      exact last (by simp)
    have split : earlier ++ key :: (later ++ [final]) = (earlier ++ key :: later) ++ [final] := by simp
    rw [split, usedSince_concat_of_ne _ different, List.mem_append]
    rcases List.mem_append.mp member with inside | inside
    · exact Or.inl (ih (fun again => last (List.mem_append_left _ again)) inside)
    · exact Or.inr inside

end Records

section Entries

variable (cache : Cache α) (now : Rat) {key : String} {entry : CacheEntry α} {use : Use α}

@[simp] theorem lifetime_prune : (cache.prune now).lifetime = cache.lifetime :=
  cache.prune_induction now (motive := (·.lifetime = cache.lifetime)) rfl
    fun other key same => (other.lifetime_erase key).trans same

theorem lifetime_after (use : Use α) : (cache.after use).lifetime = cache.lifetime := by
  cases use with
  | get now key => exact cache.lifetime_get now key
  | set now key value lifetime => exact cache.lifetime_set now key value lifetime
  | invalidate key => exact cache.lifetime_erase key
  | clear => rfl
  | items now => exact cache.lifetime_prune now
  | size now => exact cache.lifetime_prune now

variable {cache} {now}

theorem entry?_of_mem (distinct : cache.keys.Nodup) (listed : (key, entry) ∈ cache.entries) :
    cache.entry? key = some entry := by
  obtain ⟨front, back, split⟩ := List.append_of_mem listed
  refine List.lookup_eq_some_iff.mpr ⟨front, back, split, fun other inFront => ?_⟩
  rw [keys, split, List.map_append, List.map_cons] at distinct
  have apart := (List.nodup_append.mp distinct).2.2 other.1 (List.mem_map_of_mem inFront) key List.mem_cons_self
  simpa using apart.symm

/-- Pruning never adds an entry. -/
theorem entry?_of_prune (found : entry? (cache.prune now) key = some entry) :
    cache.entry? key = some entry := by
  refine cache.prune_induction now (motive := fun pruned => pruned.entry? key = some entry →
    cache.entry? key = some entry) id (fun pruned other kept found => kept ?_) found
  rw [entry?_erase] at found
  split at found
  next => cases found
  next => exact found

theorem entry?_foldl_erase (cache : Cache α) {dropped : List (String × CacheEntry α)}
    (spared : ∀ other ∈ dropped, other.1 ≠ key) :
    entry? (dropped.foldl (fun cache other => cache.erase other.1) cache) key = cache.entry? key := by
  induction dropped generalizing cache with
  | nil => rfl
  | cons first rest ih =>
    obtain ⟨different, others⟩ := List.forall_mem_cons.mp spared
    rw [List.foldl_cons, ih _ others, entry?_erase, if_neg different.symm]

/-- Pruning keeps what has not expired. -/
theorem entry?_prune (distinct : cache.keys.Nodup) (stored : cache.entry? key = some entry)
    (fresh : entry.isExpired now = false) : entry? (cache.prune now) key = some entry := by
  rw [prune, entry?_foldl_erase cache, stored]
  rintro ⟨name, other⟩ listed rfl
  obtain ⟨member, expired⟩ := List.mem_filter.mp listed
  -- the key has no other entry, and the one that it has is not expired
  obtain rfl : entry = other := Option.some.inj (stored.symm.trans (entry?_of_mem distinct member))
  exact Bool.false_ne_true (fresh.symm.trans expired)

end Entries

/-- Whether all that a cache has entries for has been stored by the last use that stored or dropped anything under
the same key. -/
def IsRecorded (cache : Cache α) (uses : List (Use α)) : Prop :=
  ∀ key entry, cache.entry? key = some entry → ∃ since value own,
    lastChange? uses key = some (.set since key value own) ∧
      entry = ⟨value, (own.getD cache.lifetime).expiry since⟩

section Steps

variable {cache : Cache α} {uses : List (Use α)} {use : Use α} {touched : List String} {key : String}
  {entry : CacheEntry α}

/-- What there is after a use has been stored by it, or was there and has not been changed. -/
theorem IsKept.entry?_of_after (kept : cache.IsKept touched) (positive : 1 ≤ cache.capacity)
    (found : entry? (cache.after use) key = some entry) :
    (∃ since value own, use = .set since key value own ∧
      entry = ⟨value, (own.getD cache.lifetime).expiry since⟩) ∨
    (use.changes key = false ∧ cache.entry? key = some entry) := by
  cases use with
  | get now other => exact Or.inr ⟨rfl, cache.entry?_of_get now other key found⟩
  | set now other value own =>
    obtain ⟨evicted, stores⟩ := kept.stores positive now other value own
    by_cases same : key = other
    · subst same
      exact Or.inl ⟨now, value, own, rfl, Option.some.inj (found.symm.trans stores.placed)⟩
    · refine Or.inr ⟨by simpa [Use.changes] using Ne.symm same, ?_⟩
      have others := stores.others key same
      rw [show entry? (cache.set now other value own) key = some entry from found] at others
      split at others
      next => cases others
      next => exact others.symm
  | invalidate other =>
    have kept : entry? (cache.erase other) key = some entry := found
    rw [entry?_erase] at kept
    split at kept
    next => cases kept
    next different => exact Or.inr ⟨by simpa [Use.changes] using Ne.symm different, kept⟩
  | clear => cases found
  | items now => exact Or.inr ⟨rfl, entry?_of_prune found⟩
  | size now => exact Or.inr ⟨rfl, entry?_of_prune found⟩

theorem IsRecorded.after (recorded : cache.IsRecorded uses) (kept : cache.IsKept touched)
    (positive : 1 ≤ cache.capacity) (use : Use α) : (cache.after use).IsRecorded (uses ++ [use]) := by
  intro key entry found
  rw [lifetime_after, lastChange?_concat]
  rcases kept.entry?_of_after positive found with ⟨since, value, own, rfl, same⟩ | ⟨unchanged, before⟩
  · exact ⟨since, value, own, by simp [Use.changes], same⟩
  · rw [unchanged]
    exact recorded key entry before

/-- A full cache gives up the entry of a key only if as many other keys have been used since as it has places,
with the new one. -/
theorem IsKept.capacity_le_of_evicted (kept : cache.IsKept touched) {stored : Cache α} {other : String}
    (different : other ≠ key) (stores : cache.Stores stored touched other entry (some key)) :
    cache.capacity ≤ ((usedSince (touched ++ [other]) key).dedup.length : Int) := by
  obtain ⟨absent, full⟩ := stores.full.mp rfl
  obtain ⟨listed, oldest⟩ := stores.oldest key rfl
  -- the other keys that have entries, and the new one
  have names : (other :: cache.keys.erase key).Nodup :=
    List.nodup_cons.mpr ⟨fun inside => absent (List.mem_of_mem_erase inside), kept.distinct.erase key⟩
  have used : other :: cache.keys.erase key ⊆ (usedSince (touched ++ [other]) key).dedup := by
    rw [usedSince_concat_of_ne touched different]
    refine List.cons_subset.mpr ⟨List.mem_dedup.mpr (by simp), fun name inside => ?_⟩
    obtain ⟨apart, member⟩ := (kept.distinct.mem_erase_iff).mp inside
    exact List.mem_dedup.mpr (List.mem_append_left _ (oldest name member apart).mem_usedSince)
  have many := (names.subperm used).length_le
  rw [List.length_cons, List.length_erase_of_mem listed, length_keys] at many
  have some : 0 < cache.entries.length := by
    rw [← length_keys]
    exact List.length_pos_of_mem listed
  omega

/-- An entry that a use does not change is still there behind it, as long as it has not expired and not too many
other keys have been used. -/
theorem IsKept.entry?_after (kept : cache.IsKept touched) (positive : 1 ≤ cache.capacity)
    (unchanged : use.changes key = false) (stored : cache.entry? key = some entry)
    (fresh : ∀ now ∈ use.time?, entry.isExpired now = false)
    (few : ((usedSince (touched ++ (cache.touched? use).toList) key).dedup.length : Int) < cache.capacity) :
    entry? (cache.after use) key = some entry := by
  cases use with
  | get now other =>
    rcases cache.get_cases now other with ⟨_, looked⟩ | ⟨old, there, expired, looked⟩ | ⟨_, _, _, looked⟩
    · rw [Cache.after, looked]
      exact stored
    · rw [Cache.after, looked]
      show entry? (cache.erase other) key = some entry
      rw [entry?_erase, if_neg, stored]
      rintro rfl
      cases stored.symm.trans there
      exact Bool.false_ne_true ((fresh now rfl).symm.trans expired)
    · rw [Cache.after, looked]
      exact stored
  | set now other value own =>
    have different : other ≠ key := by simpa [Use.changes] using unchanged
    obtain ⟨evicted, stores⟩ := kept.stores positive now other value own
    show entry? (cache.set now other value own) key = some entry
    rw [stores.others key different.symm, if_neg, stored]
    rintro rfl
    exact Int.not_lt.mpr (kept.capacity_le_of_evicted different stores) few
  | invalidate other =>
    have different : other ≠ key := by simpa [Use.changes] using unchanged
    show entry? (cache.erase other) key = some entry
    rw [entry?_erase, if_neg different.symm, stored]
  | clear => cases unchanged
  | items now => exact entry?_prune kept.distinct stored (fresh now rfl)
  | size now => exact entry?_prune kept.distinct stored (fresh now rfl)

end Steps

/-- Whether a cache still has, at a time, everything that was stored last under its key, unless its lifetime is over
or too many other keys have been used. -/
def Retains (cache : Cache α) (uses : List (Use α)) (touched : List String) (now : Rat) : Prop :=
  ∀ key since value own, lastChange? uses key = some (.set since key value own) →
    (own.getD cache.lifetime).Lasts since now →
    ((usedSince touched key).dedup.length : Int) < cache.capacity →
    cache.entry? key = some ⟨value, (own.getD cache.lifetime).expiry since⟩

/-- A use that finds what is there under a key has that key used last. -/
theorem live?_of_touched? {cache : Cache α} {use : Use α} {key : String}
    (unchanged : use.changes key = false) (touches : cache.touched? use = some key) :
    ∃ now value, cache.live? now key = some value := by
  cases use with
  | get now other =>
    obtain ⟨value, live, rfl⟩ := Option.map_eq_some_iff.mp touches
    exact ⟨now, value, live⟩
  | set now other value own =>
    cases touches
    simp [Use.changes] at unchanged
  | _ => cases touches

/-- Using another key never leaves fewer keys used since. -/
theorem length_usedSince_le (touched : List String) {key : String} {more : Option String}
    (other : more ≠ some key) :
    (usedSince touched key).dedup.length ≤ (usedSince (touched ++ more.toList) key).dedup.length := by
  cases more with
  | none => simp
  | some name =>
    rw [Option.toList_some, usedSince_concat_of_ne touched (by simpa using other)]
    refine ((List.nodup_dedup _).subperm fun used member => ?_).length_le
    exact List.mem_dedup.mpr (List.mem_append_left _ (List.mem_dedup.mp member))

section Runs

variable {cache : Cache α} {uses : List (Use α)} {use : Use α} {touched : List String}

theorem Retains.after {now : Rat} (retains : cache.Retains uses touched now)
    (ordered : AreInOrder (uses ++ [use])) (recorded : cache.IsRecorded uses) (kept : cache.IsKept touched)
    (positive : 1 ≤ cache.capacity) (past : ∀ time ∈ use.time?, time ≤ now) :
    (cache.after use).Retains (uses ++ [use]) (touched ++ (cache.touched? use).toList) now := by
  intro key since value own last lasts few
  rw [lifetime_after] at lasts ⊢
  rw [capacity_after] at few
  rw [lastChange?_concat] at last
  cases changed : use.changes key with
  | true =>
    rw [changed, if_pos rfl] at last
    cases last
    obtain ⟨evicted, stores⟩ := kept.stores positive since key value own
    exact stores.placed
  | false =>
    rw [changed, if_neg Bool.false_ne_true] at last
    have stored : cache.entry? key = some ⟨value, (own.getD cache.lifetime).expiry since⟩ := by
      by_cases found : cache.touched? use = some key
      -- a key that is found has an entry, and by the record it is this one
      · obtain ⟨time, _, live⟩ := live?_of_touched? changed found
        obtain ⟨entry, there, -⟩ := cache.entry?_of_live? time key live
        obtain ⟨_, _, _, same, rfl⟩ := recorded key entry there
        cases last.symm.trans same
        exact there
      · refine retains key since value own last lasts ?_
        have fewer := length_usedSince_le touched found
        omega
    refine kept.entry?_after positive changed stored (fun time looked => ?_) few
    have lasting := lasts.of_le le_rfl (past time looked)
    exact Bool.eq_false_iff.mpr fun expired => (Lifetime.isExpired_iff _ value since time).mp expired lasting

/-- What is known of a cache, at a time, from the uses it has had and the keys that they have used. -/
structure Remembers (cache : Cache α) (uses : List (Use α)) (touched : List String) (now : Rat) : Prop where
  kept : cache.IsKept touched
  recorded : cache.IsRecorded uses
  retains : cache.Retains uses touched now

theorem Remembers.after {now : Rat} (remembers : cache.Remembers uses touched now)
    (ordered : AreInOrder (uses ++ [use])) (positive : 1 ≤ cache.capacity)
    (past : ∀ time ∈ use.time?, time ≤ now) :
    (cache.after use).Remembers (uses ++ [use]) (touched ++ (cache.touched? use).toList) now where
  kept := remembers.kept.after positive use
  recorded := remembers.recorded.after remembers.kept positive use
  retains := remembers.retains.after ordered remembers.recorded remembers.kept positive past

/-- Uses on a clock that never goes back leave a cache that remembers them. -/
theorem Remembers.run {done : List (Use α)} {now : Rat} (remembers : cache.Remembers done touched now)
    (ordered : AreInOrder (done ++ uses)) (positive : 1 ≤ cache.capacity)
    (past : ∀ use ∈ uses, ∀ time ∈ use.time?, time ≤ now) :
    (cache.run uses).Remembers (done ++ uses) (touched ++ cache.touches uses) now := by
  induction uses generalizing cache done touched with
  | nil => simpa [Cache.run, touches] using remembers
  | cons use rest ih =>
    obtain ⟨first, others⟩ := List.forall_mem_cons.mp past
    rw [List.append_cons] at ordered ⊢
    rw [touches, ← List.append_assoc]
    have begun : AreInOrder (done ++ [use]) := ordered.of_append
    exact ih (remembers.after begun positive first) ordered (cache.capacity_after use ▸ positive) others

theorem remembers_empty (lifetime : Lifetime) {capacity : Int} (positive : 1 ≤ capacity) (now : Rat) :
    (empty lifetime capacity : Cache α).Remembers [] [] now :=
  ⟨isKept_empty lifetime positive, by rintro _ _ ⟨⟩, by rintro _ _ _ _ ⟨⟩⟩

end Runs

theorem lifetime_run (cache : Cache α) (uses : List (Use α)) : (cache.run uses).lifetime = cache.lifetime := by
  induction uses generalizing cache with
  | nil => rfl
  | cons use rest ih => exact (ih (cache.after use)).trans (cache.lifetime_after use)

/-- What a cache answers after it has been used, on a clock that never goes back. A value is found only if the last
use that stored or dropped anything under its key has stored it, for a lifetime that is not over. Such a value is
found as long as fewer other keys have been stored or found, since its own key was stored or found for the last time,
than the cache has places. -/
theorem get_run_remembers (lifetime : Lifetime) (capacity : Int) (positive : 1 ≤ capacity)
    (uses : List (Use α)) (now : Rat) (key : String) (ordered : AreInOrder (uses ++ [.get now key])) :
    let start : Cache α := empty lifetime capacity
    let answer := ((start.run uses).get now key).1
    (∀ value, answer = some value → ∃ since own,
      lastChange? uses key = some (.set since key value own) ∧
        (own.getD lifetime).Lasts since now) ∧
    ∀ since value own, lastChange? uses key = some (.set since key value own) →
      (own.getD lifetime).Lasts since now →
      ((usedSince (start.touches uses) key).dedup.length : Int) < capacity → answer = some value := by
  intro start answer
  have past : ∀ use ∈ uses, ∀ time ∈ use.time?, time ≤ now := fun use listed time looked =>
    ordered.le listed looked rfl
  have remembers : (start.run uses).Remembers uses (start.touches uses) now :=
    (remembers_empty lifetime positive now).run ordered.of_append positive past
  have lifetimes : (start.run uses).lifetime = lifetime := start.lifetime_run uses
  have places : (start.run uses).capacity = capacity := start.capacity_run uses
  have looked : answer = (start.run uses).live? now key := Cache.get_fst _ now key
  constructor
  · intro value found
    rw [looked, live?, Option.bind_eq_some_iff] at found
    obtain ⟨entry, stored, fresh⟩ := found
    obtain ⟨since, last, own, changed, rfl⟩ := remembers.recorded key entry stored
    rw [lifetimes] at fresh
    split at fresh
    next => cases fresh
    next living =>
      cases fresh
      exact ⟨since, own, changed, not_not.mp ((Lifetime.isExpired_iff _ last since now).not.mp living)⟩
  · intro since value own last lasts few
    have stored := remembers.retains key since value own last (by rwa [lifetimes]) (by rwa [places])
    rw [lifetimes] at stored
    have living := fun expired => (Lifetime.isExpired_iff _ value since now).mp expired lasts
    rw [looked, live?, stored, Option.bind_some, if_neg living]

/-- Two keys in a cache for two, the first of them found once more before a third one comes. -/
def thirdKey : List (Use Nat) :=
  [.set 0 "visa" 1 none, .set 1 "passport" 2 (some .endless), .get 2 "visa", .set 3 "report" 3 none]

/-- The key that was found in between is found as long as its lifetime lasts. The other one is not, although its
lifetime never ends. -/
theorem get_run_remembers_thirdKey :
    let cache := (empty (.lasting 300) 2).run thirdKey
    AreInOrder (thirdKey ++ [.get 299 "visa"]) ∧ AreInOrder (thirdKey ++ [.get 300 "visa"]) ∧
      (cache.get 299 "visa").1 = some 1 ∧ (∀ value, (cache.get 300 "visa").1 ≠ some value) ∧
      (cache.get 4 "passport").1 = none ∧
      usedSince ((empty (.lasting 300) 2).touches thirdKey) "passport" = ["visa", "report"] := by
  have first : AreInOrder (thirdKey ++ [.get 299 "visa"]) := by decide +kernel
  have second : AreInOrder (thirdKey ++ [.get 300 "visa"]) := by decide +kernel
  have stored : lastChange? thirdKey "visa" = some (.set 0 "visa" 1 none) := rfl
  refine ⟨first, second, ?_, fun value found => ?_, by decide +kernel, by decide +kernel⟩
  · refine (get_run_remembers (.lasting 300) 2 (by decide) thirdKey 299 "visa" first).2 0 1 none stored ?_ ?_
    · decide +kernel
    · decide +kernel
  · obtain ⟨since, own, changed, lasts⟩ :=
      (get_run_remembers (.lasting 300) 2 (by decide) thirdKey 300 "visa" second).1 value found
    cases stored.symm.trans changed
    exact absurd lasts (by decide +kernel)

end Obligations.Cache
