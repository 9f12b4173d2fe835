import RouteAudit.Proofs.AuditTables

/-!
# Look-ups in caches of two sizes

A cache is only ever asked for the value of a key, which it computes and stores if it is missing. So
every look-up touches its key, found or not, and what is found goes by the look-ups alone. Of two
caches that are asked for the same keys, the larger one then finds whatever the smaller one finds,
and it counts at least as many hits.
-/

namespace RouteAudit

/-- A look-up in a cache: the key, and whether its value was there. -/
structure Lookup (κ : Type) where
  key : κ
  hit : Bool
  deriving DecidableEq, Repr

/-- Two look-ups are for the same key, and the second one finds something if the first one does. -/
structure Lookup.LeadsTo {κ : Type} (lookup other : Lookup κ) : Prop where
  key : lookup.key = other.key
  hit : lookup.hit = true → other.hit = true

namespace Cache

variable {κ α : Type} [DecidableEq κ]

/-- The look-up of a key, as things stand. -/
def lookup (cache : Cache κ α) (key : κ) : Lookup κ :=
  ⟨key, cache.contains key⟩

/-- Asked for the values of some keys in turn, which it computes where they are missing, a cache
becomes another one. -/
inductive Serves : Cache κ α → List (Lookup κ) → Cache κ α → Prop where
  | nil (cache : Cache κ α) : Serves cache [] cache
  | cons {cache after : Cache κ α} {rest : List (Lookup κ)} (key : κ) (compute : Unit → α) :
      Serves (cache.getOrCompute key compute).2 rest after →
        Serves cache (cache.lookup key :: rest) after

/-- Asking a cache once is one look-up. -/
theorem serves_getOrCompute (cache : Cache κ α) (key : κ) (compute : Unit → α) :
    cache.Serves [cache.lookup key] (cache.getOrCompute key compute).2 :=
  .cons key compute (.nil _)

/-- A cache is asked more after it has been asked. -/
theorem Serves.append {cache between after : Cache κ α} {lookups more : List (Lookup κ)}
    (h : cache.Serves lookups between) (hmore : between.Serves more after) :
    cache.Serves (lookups ++ more) after := by
  induction h with
  | nil => exact hmore
  | cons key compute _ ih => exact .cons key compute (ih hmore)

/-- A missing value is stored once it has been looked for. -/
theorem getOrCompute_cases (cache : Cache κ α) (key : κ) (compute : Unit → α) :
    (cache.contains key = true ∧ (cache.getOrCompute key compute).2 = (cache.get key).2) ∨
      (cache.contains key = false ∧ ∃ value,
        (cache.getOrCompute key compute).2 = (cache.get key).2.set key value) := by
  unfold getOrCompute get contains
  cases cache.entries.lookup key with
  | none => exact .inr ⟨rfl, _, rfl⟩
  | some value => exact .inl ⟨rfl, rfl⟩

/-! ## Counting look-ups -/

/-- A look-up that finds something counts as a hit, any other one as a miss. -/
theorem counts_getOrCompute (cache : Cache κ α) (key : κ) (compute : Unit → α) :
    (cache.getOrCompute key compute).2.hits =
        cache.hits + (if (cache.lookup key).hit then 1 else 0) ∧
      (cache.getOrCompute key compute).2.hits + (cache.getOrCompute key compute).2.misses =
        cache.hits + cache.misses + 1 := by
  unfold lookup getOrCompute get contains
  cases cache.entries.lookup key with
  | none => exact ⟨rfl, rfl⟩
  | some value => exact ⟨rfl, Nat.add_right_comm _ _ _⟩

/-- The counts of a cache go by the look-ups. -/
theorem Serves.counts {cache after : Cache κ α} {lookups : List (Lookup κ)}
    (h : cache.Serves lookups after) :
    after.hits = cache.hits + lookups.countP Lookup.hit ∧
      after.hits + after.misses = cache.hits + cache.misses + lookups.length := by
  induction h with
  | nil => exact ⟨rfl, rfl⟩
  | @cons cache after rest key compute _ ih =>
    obtain ⟨hhits, hall⟩ := ih
    obtain ⟨hhit, hone⟩ := cache.counts_getOrCompute key compute
    rw [List.countP_cons, List.length_cons]
    omega

/-! ## Looking up the same keys -/

/-- A look-up sends a key that is there to the end. -/
theorem keys_get (cache : Cache κ α) (key : κ) :
    (cache.get key).2.keys =
      if cache.contains key then touchedAgain cache.keys key else cache.keys := by
  unfold get contains
  cases cache.entries.lookup key with
  | none => rfl
  | some value => exact cache.map_fst_others_append key value

/-- Every look-up touches its key, found or not. -/
theorem kept_getOrCompute {cache : Cache κ α} {touches : List κ}
    (h : Kept cache.capacity touches.dedup cache.keys) (key : κ) (compute : Unit → α) :
    Kept (cache.getOrCompute key compute).2.capacity (touches ++ [key]).dedup
      (cache.getOrCompute key compute).2.keys := by
  rw [capacity_getOrCompute]
  rcases cache.getOrCompute_cases key compute with ⟨hfound, hasked⟩ | ⟨hmissing, value, hasked⟩
  · have hkey := (cache.contains_iff key).mp hfound
    rw [hasked, keys_get, if_pos hfound, dedup_concat]
    exact h.touch_mem (List.nodup_dedup _) hkey
  · -- A missing key is touched by what is stored under it.
    have hkeys : (cache.get key).2.keys = cache.keys := by simp [keys_get, hmissing]
    have hkept : Kept (cache.get key).2.capacity touches.dedup (cache.get key).2.keys := by
      rwa [capacity_get, hkeys]
    have hset := kept_set hkept key value
    rwa [capacity_get, ← hasked] at hset

/-- Of two caches with the same touches behind them, the larger one finds what the smaller one
finds. -/
theorem contains_of_kept {small large : Cache κ α} {touches : List κ}
    (hsmall : Kept small.capacity touches.dedup small.keys)
    (hlarge : Kept large.capacity touches.dedup large.keys)
    (hcapacity : small.capacity ≤ large.capacity) {key : κ} (h : small.contains key = true) :
    large.contains key = true := by
  rw [contains_iff, hsmall.mem_iff] at h
  rw [contains_iff, hlarge.mem_iff]
  exact ⟨h.1, h.2.trans_le hcapacity⟩

/-- Of two caches with the same touches behind them that are asked for the same keys, the larger one
finds whatever the smaller one finds. -/
theorem Serves.leadsTo {small smallAfter large largeAfter : Cache κ α}
    {lookups others : List (Lookup κ)} {touches : List κ}
    (h : small.Serves lookups smallAfter) (hother : large.Serves others largeAfter)
    (hsmall : Kept small.capacity touches.dedup small.keys)
    (hlarge : Kept large.capacity touches.dedup large.keys)
    (hcapacity : small.capacity ≤ large.capacity)
    (hkeys : lookups.map Lookup.key = others.map Lookup.key) :
    List.Forall₂ Lookup.LeadsTo lookups others := by
  induction h generalizing large others touches with
  | nil =>
    cases hother with
    | nil => exact .nil
    | cons => cases hkeys
  | @cons small after rest key compute _ ih =>
    cases hother with
    | nil => cases hkeys
    | cons otherKey otherCompute hmore =>
      obtain ⟨rfl, hrest⟩ := List.cons.inj hkeys
      have hhit : (small.lookup key).LeadsTo (large.lookup key) :=
        ⟨rfl, contains_of_kept hsmall hlarge hcapacity⟩
      -- The key is touched in both caches, so the same touches are behind them again.
      have hnext : (small.getOrCompute key compute).2.capacity ≤
          (large.getOrCompute key otherCompute).2.capacity := by
        rwa [capacity_getOrCompute, capacity_getOrCompute]
      exact .cons hhit (ih hmore (kept_getOrCompute hsmall key compute)
        (kept_getOrCompute hlarge key otherCompute) hnext hrest)

end Cache

/-! ## Counting hits -/

/-- What a cache reports about itself are counts of look-ups. -/
structure CacheStats.Counts {κ : Type} (stats : CacheStats) (lookups : List (Lookup κ)) : Prop where
  hits : stats.hits = lookups.countP Lookup.hit
  all : stats.hits + stats.misses = lookups.length

/-- A memory of another size is asked for the same and finds at least as much, look-up by look-up.
-/
structure HitsMore {κ : Type} (few many : List (Lookup κ)) (stats otherStats : CacheStats) : Prop
    where
  counts : stats.Counts few
  otherCounts : otherStats.Counts many
  asked : stats.hits + stats.misses = otherStats.hits + otherStats.misses
  hits : stats.hits ≤ otherStats.hits
  /-- Whatever is found is found by the other memory as well. -/
  found : List.Forall₂ Lookup.LeadsTo few many

/-- Look-ups that lead to others, one by one, find at most as much. -/
theorem countP_hit_le {κ : Type} {few many : List (Lookup κ)}
    (h : List.Forall₂ Lookup.LeadsTo few many) :
    few.countP Lookup.hit ≤ many.countP Lookup.hit := by
  induction h with
  | nil => exact Nat.le_refl _
  | @cons lookup other _ _ hleads _ ih =>
    rw [List.countP_cons, List.countP_cons]
    cases hlookup : lookup.hit with
    | false => simpa using ih.trans (Nat.le_add_right _ _)
    | true => simpa [hleads.hit hlookup] using ih

namespace Cache

variable {κ α : Type} [DecidableEq κ]

/-- A cache that holds nothing yet. -/
def empty (κ α : Type) (capacity : Nat) (hpos : 0 < capacity) : Cache κ α :=
  { capacity, capacity_pos := hpos }

/-- An empty cache keeps up with no touches. -/
theorem kept_empty {capacity : Nat} (hpos : 0 < capacity) :
    Kept (empty κ α capacity hpos).capacity ([] : List κ).dedup (empty κ α capacity hpos).keys :=
  ⟨⟨[], rfl, .inl rfl⟩, Nat.zero_le _⟩

/-- What an empty cache counts are the look-ups. -/
theorem Serves.stats_counts {capacity : Nat} {hpos : 0 < capacity} {lookups : List (Lookup κ)}
    {after : Cache κ α} (h : (empty κ α capacity hpos).Serves lookups after) :
    after.stats.Counts lookups := by
  obtain ⟨hhits, hall⟩ := h.counts
  exact ⟨hhits.trans (Nat.zero_add _), hall.trans (Nat.zero_add _)⟩

/-- Of two empty caches that are asked for the same keys, the larger one finds at least as much. -/
theorem Serves.hitsMore {small large : Nat} {hsmall : 0 < small} {hlarge : 0 < large}
    {few many : List (Lookup κ)} {smallAfter largeAfter : Cache κ α}
    (h : (empty κ α small hsmall).Serves few smallAfter)
    (hother : (empty κ α large hlarge).Serves many largeAfter) (hle : small ≤ large)
    (hkeys : few.map Lookup.key = many.map Lookup.key) :
    HitsMore few many smallAfter.stats largeAfter.stats := by
  have hfound := h.leadsTo hother (kept_empty hsmall) (kept_empty hlarge) hle hkeys
  have hcounts := h.stats_counts
  have hotherCounts := hother.stats_counts
  refine ⟨hcounts, hotherCounts, ?_, ?_, hfound⟩
  · rw [hcounts.all, hotherCounts.all, hfound.length_eq]
  · rw [hcounts.hits, hotherCounts.hits]
    exact countP_hit_le hfound

end Cache

end RouteAudit
