import RouteAudit.Whole

/-!
# Bounded caches

A cache holds at most a given number of values. When a new key finds it full, the value that was
used least recently makes room. Every look-up counts as a hit or as a miss.
-/

namespace RouteAudit

/-- A cache of values by keys. -/
structure Cache (κ α : Type) where
  capacity : Nat
  capacity_pos : 0 < capacity
  /-- The stored values, the least recently used first. -/
  entries : List (κ × α) := []
  hits : Nat := 0
  misses : Nat := 0

/-- The numbers that a cache reports about itself. -/
structure CacheStats where
  hits : Nat
  misses : Nat
  size : Nat
  deriving DecidableEq, Repr

/-- A number that is no capacity, since it is not positive. -/
structure CapacityFault where
  given : Whole
  deriving DecidableEq, Repr

/-- The message for a number that is no capacity. -/
def CapacityFault.message (fault : CapacityFault) : String :=
  s!"Cache capacity must be a positive integer, got {fault.given.text}."

namespace Cache

variable {κ α : Type}

/-- An empty cache. -/
def create (capacity : Whole) : Except CapacityFault (Cache κ α) :=
  if h : 0 < capacity.toInt.toNat then .ok { capacity := capacity.toInt.toNat, capacity_pos := h }
  else .error ⟨capacity⟩

/-- The number of stored values. -/
def size (cache : Cache κ α) : Nat :=
  cache.entries.length

/-- The cache without its values and with its counts at zero. -/
def clear (cache : Cache κ α) : Cache κ α :=
  { cache with entries := [], hits := 0, misses := 0 }

/-- What the cache reports about itself. -/
def stats (cache : Cache κ α) : CacheStats :=
  ⟨cache.hits, cache.misses, cache.size⟩

/-- The share of look-ups that were hits, zero before the first one. -/
def hitRate (cache : Cache κ α) : Float :=
  let total := cache.hits + cache.misses
  if total = 0 then 0.0 else Float.ofNat cache.hits / Float.ofNat total

variable [DecidableEq κ]

/-- Whether a value is stored under a key. Asking changes nothing. -/
def contains (cache : Cache κ α) (key : κ) : Bool :=
  (cache.entries.lookup key).isSome

/-- The entries under other keys. -/
def others (cache : Cache κ α) (key : κ) : List (κ × α) :=
  cache.entries.filter fun entry => decide (entry.1 ≠ key)

/-- Looks a key up. A value that is found becomes the most recently used. -/
def get (cache : Cache κ α) (key : κ) : Option α × Cache κ α :=
  match cache.entries.lookup key with
  | none => (none, { cache with misses := cache.misses + 1 })
  | some value =>
      (some value,
        { cache with entries := cache.others key ++ [(key, value)], hits := cache.hits + 1 })

/-- Stores a value as the most recently used. A new key in a full cache drops the least recently
used entry. -/
def set (cache : Cache κ α) (key : κ) (value : α) : Cache κ α :=
  let kept :=
    if cache.contains key then cache.others key
    else if cache.capacity ≤ cache.size then cache.entries.drop 1
    else cache.entries
  { cache with entries := kept ++ [(key, value)] }

/-- Looks a key up, and computes and stores its value if it is missing. -/
def getOrCompute (cache : Cache κ α) (key : κ) (compute : Unit → α) : α × Cache κ α :=
  match cache.get key with
  | (some value, cache) => (value, cache)
  | (none, cache) =>
      let value := compute ()
      (value, cache.set key value)

end Cache

end RouteAudit
