import Obligations.Number.Binary64

/-! # A cache with lifetimes

Entries by key, each with the moment it expires. This moment is a number of the 64-bit format, so the
sum of the clock and a lifetime is rounded once. When a new key meets a full cache, the entry that was
not used for the longest time is given up. The clock is an argument of every operation that looks at it.
-/

namespace Obligations

open Obligations.Number

/-- How long an entry lives. -/
inductive Lifetime where
  | lasting (seconds : Rat)
  | endless
  | spent
deriving DecidableEq, Repr

namespace Lifetime

/-- The lifetime of a number of seconds; what is no number never ends. -/
def ofBinary64 : Binary64 → Lifetime
  | .nan => .endless
  | .infinite negative => if negative then .spent else .endless
  | .finite negative units => .lasting (mkRat (withSign negative units) Binary64.unitsPerOne)

/-- The moment at which an entry made now expires. -/
def expiry (lifetime : Lifetime) (now : Rat) : Binary64 :=
  match lifetime with
  | .lasting seconds => .ofRat (now + seconds)
  | .endless => .infinite false
  | .spent => .infinite true

end Lifetime

/-- A stored value and the moment it expires. -/
structure CacheEntry (α : Type) where
  value : α
  expiry : Binary64

namespace CacheEntry

def isExpired {α : Type} (entry : CacheEntry α) (now : Rat) : Bool :=
  entry.expiry.isAtMost now

end CacheEntry

/-- A cache: its entries in the order their keys came, the keys in the order of their last use, and
counts of what was found and not found. -/
structure Cache (α : Type) where
  lifetime : Lifetime
  capacity : Int
  entries : List (String × CacheEntry α)
  order : List String
  hits : Nat
  misses : Nat

namespace Cache

variable {α : Type}

/-- A cache without entries. -/
def empty (lifetime : Lifetime) (capacity : Int := 1000) : Cache α :=
  ⟨lifetime, capacity, [], [], 0, 0⟩

/-- The entry of a key, expired or not. -/
def entry? (cache : Cache α) (key : String) : Option (CacheEntry α) :=
  cache.entries.lookup key

/-- Whether a key has an entry, expired or not. -/
def contains (cache : Cache α) (key : String) : Bool :=
  (cache.entry? key).isSome

/-- The cache without the entry of a key. -/
def erase (cache : Cache α) (key : String) : Cache α :=
  if cache.contains key then
    { cache with
      entries := cache.entries.filter (·.1 != key)
      order := cache.order.erase key }
  else cache

/-- The value of a key that has not expired. Finding it makes the key the one used last; an expired
entry is given up. -/
def get (cache : Cache α) (now : Rat) (key : String) : Option α × Cache α :=
  match cache.entry? key with
  | none => (none, { cache with misses := cache.misses + 1 })
  | some entry =>
    if entry.isExpired now then
      (none, { cache.erase key with misses := cache.misses + 1 })
    else
      (some entry.value,
        { cache with order := cache.order.erase key ++ [key], hits := cache.hits + 1 })

/-- Entries with the one of a key replaced where it stands, or a new one at the end. -/
def place (key : String) (entry : CacheEntry α) :
    List (String × CacheEntry α) → List (String × CacheEntry α)
  | [] => [(key, entry)]
  | (name, old) :: rest =>
    if name = key then (name, entry) :: rest else (name, old) :: place key entry rest

/-- The cache with room for a new key, the key used longest ago given up where the cache is full.
There is no such room when the cache holds nothing that it could give up. -/
def makeRoom? (cache : Cache α) (key : String) : Option (Cache α) :=
  if cache.contains key || (cache.entries.length : Int) < cache.capacity then some cache
  else
    match cache.order with
    | [] => none
    | oldest :: _ => some (cache.erase oldest)

/-- The cache with a value stored, for a lifetime of its own or for the one of the cache. -/
def set? (cache : Cache α) (now : Rat) (key : String) (value : α) (lifetime : Option Lifetime := none) :
    Option (Cache α) :=
  (cache.makeRoom? key).map fun room =>
    { room with
      entries := place key ⟨value, (lifetime.getD cache.lifetime).expiry now⟩ room.entries
      order := room.order.erase key ++ [key] }

/-- The cache with a value stored; a cache that has no room at all stays as it is. -/
def set (cache : Cache α) (now : Rat) (key : String) (value : α) (lifetime : Option Lifetime := none) :
    Cache α :=
  (cache.set? now key value lifetime).getD cache

/-- The cache without entries; the counts stay. -/
def clear (cache : Cache α) : Cache α :=
  { cache with entries := [], order := [] }

/-- The cache without its expired entries. -/
def prune (cache : Cache α) (now : Rat) : Cache α :=
  (cache.entries.filter (·.2.isExpired now)).foldl (fun cache entry => cache.erase entry.1) cache

/-- The keys and values that have not expired. -/
def items (cache : Cache α) (now : Rat) : List (String × α) × Cache α :=
  let pruned := cache.prune now
  (pruned.entries.map fun (key, entry) => (key, entry.value), pruned)

/-- The number of entries that have not expired. -/
def size (cache : Cache α) (now : Rat) : Nat × Cache α :=
  let pruned := cache.prune now
  (pruned.entries.length, pruned)

end Cache

end Obligations
