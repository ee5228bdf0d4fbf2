import Obligations.Cache
import Obligations.Proofs.Number.Rounding
import Mathlib.Data.List.Nodup
import Mathlib.Data.List.Perm.Subperm

/-! # What a cache holds

Looking a key up gives its entry unless that has expired, and leaves what is held for all keys alone.
Storing a value, erasing a key and clearing the cache change the entries of no other key, except that
making room can give one up.
-/

namespace Obligations

open Obligations.Number

/-- Whether something that is stored at a moment for a lifetime is there at another one: the moment at which it
expires, as it is stored, has not come. -/
def Lifetime.Lasts (lifetime : Lifetime) (since now : Rat) : Prop :=
  (lifetime.expiry since).isAtMost now = false

instance (lifetime : Lifetime) (since now : Rat) : Decidable (lifetime.Lasts since now) :=
  inferInstanceAs (Decidable (_ = false))

/-- What is there at a moment was there before, and is there then if it has been stored later. -/
theorem Lifetime.Lasts.of_le {lifetime : Lifetime} {since next now later : Rat}
    (lasts : lifetime.Lasts since later) (notEarlier : since ≤ next) (notLater : now ≤ later) :
    lifetime.Lasts next now := by
  refine Bool.eq_false_iff.mpr fun reached => Bool.false_ne_true (lasts.symm.trans ?_)
  have reached : (lifetime.expiry next).isAtMost later = true := Binary64.isAtMost_of_le reached notLater
  cases lifetime with
  | lasting seconds => exact Binary64.isAtMost_ofRat_of_le (add_le_add_left notEarlier seconds) reached
  | endless => exact reached
  | spent => exact reached

/-- What is stored for some seconds is there until these are over, up to what is lost when the moment at which
they are is rounded. -/
theorem Lifetime.lasts_lasting_iff {seconds since moment : ℚ}
    (stored : (Binary64.ofRat (since + seconds)).toRat? = some moment) :
    Binary64.IsNear moment (since + seconds) ∧
      ∀ now, (Lifetime.lasting seconds).Lasts since now ↔ now < moment := by
  refine ⟨Binary64.ofRat_near stored, fun now => ?_⟩
  obtain ⟨negative, units, same, rfl⟩ := Binary64.toRat?_eq_some.mp stored
  rw [Lasts, expiry, same, Binary64.isAtMost, Rat.mkRat_eq_div, decide_eq_false_iff_not, not_le]

/-- Where the sum is rounded down, three hundred seconds are over a little early. -/
example :
    let since := ((Binary64.ofRat 0.7).toRat?).getD 0
    let now := ((Binary64.ofRat 300.7).toRat?).getD 0
    now - since < 300 ∧ ¬ (Lifetime.lasting 300).Lasts since now := by
  decide +kernel

/-- What has been stored for a lifetime is given up as soon as the lifetime is over. -/
theorem Lifetime.isExpired_iff (lifetime : Lifetime) {α : Type} (value : α) (since now : Rat) :
    CacheEntry.isExpired ⟨value, lifetime.expiry since⟩ now = true ↔ ¬ lifetime.Lasts since now := by
  rw [Lasts, Bool.not_eq_false, CacheEntry.isExpired]

/-- What has expired stays so. -/
theorem CacheEntry.isExpired_of_le {α : Type} {entry : CacheEntry α} {now later : Rat}
    (expired : entry.isExpired now = true) (notEarlier : now ≤ later) : entry.isExpired later = true :=
  Binary64.isAtMost_of_le expired notEarlier

namespace Cache

variable {α : Type} (cache : Cache α) (now : Rat) (key other : String)

/-- The value of a key that has not expired. -/
def live? : Option α :=
  (cache.entry? key).bind fun entry => if entry.isExpired now then none else some entry.value

private theorem lookup_cons_eq (entry : CacheEntry α) (rest : List (String × CacheEntry α)) :
    ((key, entry) :: rest).lookup other =
      if other = key then some entry else rest.lookup other := by
  rw [List.lookup_cons]
  by_cases same : other = key
  · simp [same]
  · rw [if_neg same, beq_false_of_ne same]

private theorem lookup_filter_ne (entries : List (String × CacheEntry α)) :
    (entries.filter (·.1 != key)).lookup other =
      if other = key then none else entries.lookup other := by
  induction entries with
  | nil => simp
  | cons entry rest ih =>
    obtain ⟨name, entry⟩ := entry
    by_cases erased : name = key
    · subst erased
      rw [List.filter_cons_of_neg (by simp), ih, lookup_cons_eq]
      split <;> rfl
    · rw [List.filter_cons_of_pos (by simpa using erased), lookup_cons_eq, lookup_cons_eq, ih]
      by_cases same : other = name
      · subst same; simp [erased]
      · rw [if_neg same, if_neg same]

@[simp] theorem entry?_erase :
    Cache.entry? (cache.erase key) other = if other = key then none else cache.entry? other := by
  rw [erase]
  split
  next => exact lookup_filter_ne key other cache.entries
  next absent =>
    split
    next same => simpa [contains, same] using absent
    next => rfl

@[simp] theorem entry?_clear : Cache.entry? cache.clear key = none :=
  rfl

/-- What looking a key up does: nothing is there, it has expired and is given up, or it is found. -/
theorem get_cases :
    (cache.entry? key = none ∧ cache.get now key = (none, { cache with misses := cache.misses + 1 })) ∨
    (∃ entry, cache.entry? key = some entry ∧ entry.isExpired now = true ∧
      cache.get now key = (none, { cache.erase key with misses := cache.misses + 1 })) ∨
    (∃ entry, cache.entry? key = some entry ∧ entry.isExpired now = false ∧
      cache.get now key =
        (some entry.value,
          { cache with order := cache.order.erase key ++ [key], hits := cache.hits + 1 })) := by
  cases stored : cache.entry? key with
  | none => exact Or.inl ⟨rfl, by rw [get, stored]⟩
  | some entry =>
    cases expired : entry.isExpired now with
    | true => exact Or.inr (Or.inl ⟨entry, rfl, expired, by simp [get, stored, expired]⟩)
    | false => exact Or.inr (Or.inr ⟨entry, rfl, expired, by simp [get, stored, expired]⟩)

theorem entry?_of_live? {value : α} (live : cache.live? now key = some value) :
    ∃ entry, cache.entry? key = some entry ∧ entry.value = value := by
  obtain ⟨entry, found, same⟩ := Option.bind_eq_some_iff.mp live
  split at same
  next => cases same
  next => exact ⟨entry, found, Option.some.inj same⟩

theorem get_fst : (cache.get now key).1 = cache.live? now key := by
  rw [live?]
  rcases cache.get_cases now key with ⟨missing, looked⟩ | ⟨entry, stored, expired, looked⟩ |
    ⟨entry, stored, expired, looked⟩
  · rw [looked, missing]; rfl
  · rw [looked, stored]; simp [expired]
  · rw [looked, stored]; simp [expired]

/-- Looking up never adds an entry. -/
theorem entry?_of_get {entry : CacheEntry α}
    (found : Cache.entry? (cache.get now key).2 other = some entry) :
    cache.entry? other = some entry := by
  rcases cache.get_cases now key with ⟨_, looked⟩ | ⟨_, _, _, looked⟩ | ⟨_, _, _, looked⟩
  · rwa [looked] at found
  · rw [looked] at found
    have kept : Cache.entry? (cache.erase key) other = some entry := found
    rw [entry?_erase] at kept
    split at kept
    next => cases kept
    next => exact kept
  · rwa [looked] at found

@[simp] theorem live?_clear : cache.clear.live? now key = none :=
  rfl

@[simp] theorem live?_erase :
    (cache.erase key).live? now other = if other = key then none else cache.live? now other := by
  rw [live?, live?, entry?_erase]
  split <;> rfl

/-- Looking up leaves what is held for every key alone, then and later. -/
theorem live?_get_of_le {later : Rat} (notEarlier : now ≤ later) :
    (cache.get now key).2.live? later other = cache.live? later other := by
  rcases cache.get_cases now key with
    ⟨_, looked⟩ | ⟨entry, stored, expired, looked⟩ | ⟨_, _, _, looked⟩
  · rw [looked]; rfl
  · rw [looked]
    show (cache.erase key).live? later other = _
    rw [live?_erase]
    split
    next same =>
      have ended : entry.isExpired later = true := CacheEntry.isExpired_of_le expired notEarlier
      rw [same, live?, stored]
      simp [ended]
    next => rfl
  · rw [looked]; rfl

@[simp] theorem live?_get : (cache.get now key).2.live? now other = cache.live? now other :=
  cache.live?_get_of_le now key other Rat.le_refl

private theorem lookup_place (entry : CacheEntry α) (entries : List (String × CacheEntry α)) :
    (place key entry entries).lookup other =
      if other = key then some entry else entries.lookup other := by
  induction entries with
  | nil => rw [place, lookup_cons_eq]
  | cons first rest ih =>
    obtain ⟨name, old⟩ := first
    rw [place]
    by_cases placed : name = key
    · subst placed
      rw [if_pos rfl, lookup_cons_eq, lookup_cons_eq]
      split <;> rfl
    · rw [if_neg placed, lookup_cons_eq, lookup_cons_eq, ih]
      by_cases same : other = name
      · subst same; simp [placed]
      · rw [if_neg same, if_neg same]

/-- What is held after a value has been stored is that value or was held before under another key. -/
theorem entry?_of_set {value : α} {lifetime : Option Lifetime} {entry : CacheEntry α}
    (found : Cache.entry? (cache.set now key value lifetime) other = some entry) :
    (other = key ∧ entry.value = value) ∨ (other ≠ key ∧ cache.entry? other = some entry) := by
  rw [set, set?, makeRoom?] at found
  split at found
  next =>
    rw [Option.map_some, Option.getD_some, entry?, lookup_place] at found
    split at found
    next same => exact Or.inl ⟨same, by cases found; rfl⟩
    next different => exact Or.inr ⟨different, found⟩
  next full =>
    cases order : cache.order with
    | nil =>
      rw [order] at found
      refine Or.inr ⟨?_, found⟩
      rintro rfl
      have held : cache.entry? other = some entry := found
      simp [contains, held] at full
    | cons oldest rest =>
      rw [order, Option.map_some, Option.getD_some, entry?, lookup_place] at found
      split at found
      next same => exact Or.inl ⟨same, by cases found; rfl⟩
      next different =>
        have kept : Cache.entry? (cache.erase oldest) other = some entry := found
        rw [entry?_erase] at kept
        split at kept
        next => cases kept
        next => exact Or.inr ⟨different, kept⟩

/-- Whether a value can be stored under a key without giving another one up. -/
def HasRoom : Prop :=
  cache.contains key = true ∨ (cache.entries.length : Int) < cache.capacity

variable {cache key} in
/-- A value stored where there is room changes what is there under its own key only. -/
theorem entry?_set_of_hasRoom (room : cache.HasRoom key) (value : α) (lifetime : Option Lifetime) :
    Cache.entry? (cache.set now key value lifetime) other =
      if other = key then some ⟨value, (lifetime.getD cache.lifetime).expiry now⟩
      else cache.entry? other := by
  rw [set, set?, makeRoom?, if_pos (by simpa [HasRoom] using room), Option.map_some,
    Option.getD_some, entry?, lookup_place]
  rfl

/-- A value stored where there is room for one more is there as long as its lifetime has not ended. -/
theorem live?_set_self {value : α} {lifetime : Option Lifetime}
    (room : (cache.entries.length : Int) < cache.capacity)
    (lasts : (lifetime.getD cache.lifetime).Lasts now now) :
    (cache.set now key value lifetime).live? now key = some value := by
  rw [live?, entry?_set_of_hasRoom now key (Or.inr room), if_pos rfl, Option.bind_some,
    if_neg fun expired => (Lifetime.isExpired_iff _ value now now).mp expired lasts]

variable {cache key} in
/-- A value stored where there is room is there until its lifetime is over, and nothing else changes. -/
theorem live?_set_of_hasRoom (room : cache.HasRoom key) (value : α) (lifetime : Option Lifetime)
    (later : Rat) :
    (cache.set now key value lifetime).live? later other =
      if other = key then
        if (lifetime.getD cache.lifetime).Lasts now later then some value else none
      else cache.live? later other := by
  rw [live?, entry?_set_of_hasRoom now other room]
  split
  next =>
    have expired := Lifetime.isExpired_iff (lifetime.getD cache.lifetime) value now later
    rw [Option.bind_some]
    by_cases lasts : (lifetime.getD cache.lifetime).Lasts now later
    · rw [if_pos lasts, if_neg fun gone => expired.mp gone lasts]
    · rw [if_neg lasts, if_pos (expired.mpr lasts)]
  next => rfl

section Settings

@[simp] theorem lifetime_erase : (cache.erase key).lifetime = cache.lifetime := by
  rw [erase]; split <;> rfl

@[simp] theorem lifetime_get : (cache.get now key).2.lifetime = cache.lifetime := by
  rcases cache.get_cases now key with ⟨_, looked⟩ | ⟨_, _, _, looked⟩ | ⟨_, _, _, looked⟩
  · rw [looked]
  · rw [looked]; exact cache.lifetime_erase key
  · rw [looked]

@[simp] theorem lifetime_set (value : α) (lifetime : Option Lifetime) :
    (cache.set now key value lifetime).lifetime = cache.lifetime := by
  rw [set, set?, makeRoom?]
  split
  next => rfl
  next =>
    cases cache.order with
    | nil => rfl
    | cons oldest rest => exact cache.lifetime_erase oldest

@[simp] theorem capacity_erase : (cache.erase key).capacity = cache.capacity := by
  rw [erase]; split <;> rfl

@[simp] theorem capacity_get : (cache.get now key).2.capacity = cache.capacity := by
  rcases cache.get_cases now key with ⟨_, looked⟩ | ⟨_, _, _, looked⟩ | ⟨_, _, _, looked⟩
  · rw [looked]
  · rw [looked]; exact cache.capacity_erase key
  · rw [looked]

@[simp] theorem capacity_set (value : α) (lifetime : Option Lifetime) :
    (cache.set now key value lifetime).capacity = cache.capacity := by
  rw [set, set?, makeRoom?]
  split
  next => rfl
  next =>
    cases cache.order with
    | nil => rfl
    | cons oldest rest => exact cache.capacity_erase oldest

end Settings

section Keys

/-- The keys that have entries, expired or not. -/
def keys : List String :=
  cache.entries.map (·.1)

theorem contains_iff_mem_keys : cache.contains key = true ↔ key ∈ cache.keys := by
  rw [contains, entry?, keys, List.lookup_isSome_iff]
  simp

theorem keys_erase_sublist : (cache.erase key).keys.Sublist cache.keys := by
  rw [erase]
  split
  next => exact List.filter_sublist.map _
  next => exact List.Sublist.refl _

theorem keys_get_sublist : (cache.get now key).2.keys.Sublist cache.keys := by
  rcases cache.get_cases now key with ⟨_, looked⟩ | ⟨_, _, _, looked⟩ | ⟨_, _, _, looked⟩
  · rw [looked]; exact List.Sublist.refl _
  · rw [looked]; exact cache.keys_erase_sublist key
  · rw [looked]; exact List.Sublist.refl _

private theorem map_fst_place (entry : CacheEntry α) (entries : List (String × CacheEntry α)) :
    (place key entry entries).map (·.1) =
      if key ∈ entries.map (·.1) then entries.map (·.1) else entries.map (·.1) ++ [key] := by
  induction entries with
  | nil => simp [place]
  | cons first rest ih =>
    obtain ⟨name, old⟩ := first
    rw [place]
    by_cases placed : name = key
    · simp [placed]
    · rw [if_neg placed, List.map_cons, ih]
      by_cases listed : key ∈ rest.map (·.1)
      · simp [listed]
      · simp [listed, Ne.symm placed]

variable {cache key} in
theorem keys_set_of_hasRoom (room : cache.HasRoom key) (value : α) (lifetime : Option Lifetime) :
    (cache.set now key value lifetime).keys =
      if key ∈ cache.keys then cache.keys else cache.keys ++ [key] := by
  rw [set, set?, makeRoom?, if_pos (by simpa [HasRoom] using room), Option.map_some,
    Option.getD_some]
  exact map_fst_place key _ _

end Keys

/-- Whether a cache has entries only for some names, and room for all of these. -/
structure Fits (cache : Cache α) (names : List String) : Prop where
  distinct : cache.keys.Nodup
  inside : cache.keys ⊆ names
  small : (names.length : Int) ≤ cache.capacity

namespace Fits

variable {cache} {names : List String}

theorem hasRoom (fits : cache.Fits names) (listed : key ∈ names) : cache.HasRoom key := by
  by_cases present : key ∈ cache.keys
  · exact Or.inl ((cache.contains_iff_mem_keys key).mpr present)
  · have distinct : (key :: cache.keys).Nodup := List.nodup_cons.mpr ⟨present, fits.distinct⟩
    have inside : key :: cache.keys ⊆ names := List.cons_subset.mpr ⟨listed, fits.inside⟩
    have fewer : cache.keys.length + 1 ≤ names.length := (distinct.subperm inside).length_le
    have small := fits.small
    rw [keys, List.length_map] at fewer
    exact Or.inr (by omega)

theorem of_sublist {other : Cache α} (fits : cache.Fits names)
    (fewer : other.keys.Sublist cache.keys) (same : other.capacity = cache.capacity) :
    other.Fits names where
  distinct := fits.distinct.sublist fewer
  inside := fun _ member => fits.inside (fewer.subset member)
  small := same ▸ fits.small

theorem clear (fits : cache.Fits names) : cache.clear.Fits names :=
  fits.of_sublist (List.nil_sublist _) rfl

theorem erase (fits : cache.Fits names) : (cache.erase key).Fits names :=
  fits.of_sublist (cache.keys_erase_sublist key) (cache.capacity_erase key)

theorem get (fits : cache.Fits names) : (cache.get now key).2.Fits names :=
  fits.of_sublist (cache.keys_get_sublist now key) (cache.capacity_get now key)

theorem set (fits : cache.Fits names) (listed : key ∈ names) (value : α)
    (lifetime : Option Lifetime) : (cache.set now key value lifetime).Fits names where
  distinct := by
    rw [keys_set_of_hasRoom now (fits.hasRoom key listed)]
    split
    next => exact fits.distinct
    next absent =>
      exact List.nodup_append.mpr ⟨fits.distinct, List.nodup_singleton _, by
        rintro other member _ last rfl
        exact absent (List.mem_singleton.mp last ▸ member)⟩
  inside := by
    rw [keys_set_of_hasRoom now (fits.hasRoom key listed)]
    split
    next => exact fits.inside
    next => exact List.append_subset.mpr ⟨fits.inside, by simpa using listed⟩
  small := by
    rw [capacity_set]
    exact fits.small

end Fits

end Cache

end Obligations
