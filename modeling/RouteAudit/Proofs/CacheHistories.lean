import RouteAudit.Cache
import RouteAudit.Proofs.LastTouches

/-!
# Histories of caches

A call touches a key if it sets the key or finds it. What a cache holds is told from the calls
alone: of the keys that were touched since it was last cleared, in the order of their last touches,
it holds the last ones, as many as its capacity allows, and each with the value that it was set to
last. So a key is found exactly if it has been set and fewer other keys than the capacity were
touched behind it.
-/

namespace RouteAudit

/-- Something that a cache is asked for. -/
inductive CacheCall (κ α : Type) where
  | get (key : κ)
  | set (key : κ) (value : α)
  | clear
  deriving DecidableEq, Repr

/-- A call together with the value that it finds. -/
structure CacheExchange (κ α : Type) where
  call : CacheCall κ α
  found : Option α
  deriving DecidableEq, Repr

namespace CacheExchange

variable {κ α : Type} {exchanges : List (CacheExchange κ α)} {exchange : CacheExchange κ α}

/-- Whether an exchange clears the cache. -/
def clears (exchange : CacheExchange κ α) : Bool :=
  match exchange.call with
  | .clear => true
  | _ => false

/-- Whether an exchange looks a key up. -/
def asks (exchange : CacheExchange κ α) : Bool :=
  match exchange.call with
  | .get _ => true
  | _ => false

/-- The key that an exchange touches: it sets the key or finds it. -/
def touched? : CacheExchange κ α → Option κ
  | ⟨.get key, some _⟩ => some key
  | ⟨.set key _, _⟩ => some key
  | _ => none

/-- The exchanges behind the last one that clears the cache. -/
def sinceClear (exchanges : List (CacheExchange κ α)) : List (CacheExchange κ α) :=
  exchanges.rtakeWhile fun exchange => !exchange.clears

/-- The keys that have been touched since the cache was cleared, touch by touch. -/
def touches (exchanges : List (CacheExchange κ α)) : List κ :=
  (sinceClear exchanges).filterMap touched?

/-- The number of look-ups since the cache was cleared. -/
def lookups (exchanges : List (CacheExchange κ α)) : Nat :=
  (sinceClear exchanges).countP asks

/-- An exchange that clears the cache leaves none behind it. -/
theorem sinceClear_of_clears (hclears : exchange.clears = true) :
    sinceClear (exchanges ++ [exchange]) = [] := by
  unfold sinceClear
  exact List.rtakeWhile_concat_neg _ _ _ (by simp [hclears])

/-- Any other exchange comes behind those before it. -/
theorem sinceClear_concat (hclears : exchange.clears = false) :
    sinceClear (exchanges ++ [exchange]) = sinceClear exchanges ++ [exchange] := by
  unfold sinceClear
  exact List.rtakeWhile_concat_pos _ _ _ (by simp [hclears])

/-- The key that an exchange touches is touched behind the others. -/
theorem touches_concat (hclears : exchange.clears = false) :
    touches (exchanges ++ [exchange]) = touches exchanges ++ exchange.touched?.toList := by
  unfold touches
  rw [sinceClear_concat hclears, List.filterMap_append]
  cases htouched : exchange.touched? <;> simp [htouched]

/-- A look-up is counted with those before it. -/
theorem lookups_concat (hclears : exchange.clears = false) :
    lookups (exchanges ++ [exchange]) = lookups exchanges + if exchange.asks then 1 else 0 := by
  unfold lookups
  rw [sinceClear_concat hclears, List.countP_append, List.countP_singleton]

variable [DecidableEq κ]

/-- The value that an exchange sets a key to. -/
def setTo? (key : κ) (exchange : CacheExchange κ α) : Option α :=
  match exchange.call with
  | .set other value => if other = key then some value else none
  | _ => none

/-- The value that a key was set to last since the cache was cleared. -/
def lastSet? (key : κ) (exchanges : List (CacheExchange κ α)) : Option α :=
  (sinceClear exchanges).reverse.findSome? (setTo? key)

/-- The keys that have been touched since the cache was cleared, each once, in the order of their
last touches. -/
def recency (exchanges : List (CacheExchange κ α)) : List κ :=
  (touches exchanges).dedup

/-- The keys that have been touched behind the last touch of a key, each once. -/
def touchedBehind (key : κ) (exchanges : List (CacheExchange κ α)) : List κ :=
  ((touches exchanges).rtakeWhile fun other => decide (other ≠ key)).dedup

/-- What an exchange sets a key to replaces what it was set to before. -/
theorem lastSet?_concat (key : κ) (hclears : exchange.clears = false) :
    lastSet? key (exchanges ++ [exchange]) =
      (exchange.setTo? key).or (lastSet? key exchanges) := by
  unfold lastSet?
  rw [sinceClear_concat hclears, List.reverse_append, List.findSome?_append]
  simp

end CacheExchange

namespace Cache

open CacheExchange

variable {κ α : Type}

/-- The keys of a cache, the least recently used one first. -/
def keys (cache : Cache κ α) : List κ :=
  cache.entries.map Prod.fst

/-- There are as many keys as values. -/
theorem length_keys (cache : Cache κ α) : cache.keys.length = cache.size :=
  List.length_map _

variable [DecidableEq κ]

/-- Asks a cache once. -/
def perform (cache : Cache κ α) : CacheCall κ α → Option α × Cache κ α
  | .get key => cache.get key
  | .set key value => (none, cache.set key value)
  | .clear => (none, cache.clear)

/-- Asks a cache again and again. -/
def performAll (cache : Cache κ α) : List (CacheCall κ α) → List (CacheExchange κ α) × Cache κ α
  | [] => ([], cache)
  | call :: rest =>
      let (found, cache) := cache.perform call
      let (exchanges, cache) := cache.performAll rest
      (⟨call, found⟩ :: exchanges, cache)

/-! ## What a call does to the keys -/

/-- A key has a value exactly if it is one of the keys. -/
theorem contains_iff (cache : Cache κ α) (key : κ) :
    cache.contains key = true ↔ key ∈ cache.keys := by
  rw [contains, List.lookup_isSome_iff, keys, List.mem_map]
  constructor
  · rintro ⟨entry, hmem, hkey⟩
    exact ⟨entry, hmem, (beq_iff_eq.mp hkey).symm⟩
  · rintro ⟨entry, hmem, rfl⟩
    exact ⟨entry, hmem, beq_self_eq_true _⟩

/-- A key is found exactly if it is one of the keys. -/
theorem isSome_get_iff (cache : Cache κ α) (key : κ) :
    (cache.get key).1.isSome = true ↔ key ∈ cache.keys := by
  rw [← contains_iff, contains, get]
  cases cache.entries.lookup key <;> rfl

/-- An entry that is used goes to the end, and so does its key. -/
theorem map_fst_others_append (cache : Cache κ α) (key : κ) (value : α) :
    (cache.others key ++ [(key, value)]).map Prod.fst = touchedAgain cache.keys key := by
  rw [touchedAgain, keys, List.filter_map, List.map_append]
  rfl

/-- A look-up finds nothing and leaves the entries as they are, or it finds an entry and sends it to
the end. -/
theorem get_cases (cache : Cache κ α) (key : κ) :
    ((cache.get key).1 = none ∧ (cache.get key).2.entries = cache.entries) ∨
      ∃ value, (cache.get key).1 = some value ∧ (key, value) ∈ cache.entries ∧
        (cache.get key).2.entries = cache.others key ++ [(key, value)] := by
  unfold get
  cases hlookup : cache.entries.lookup key with
  | none => exact .inl ⟨rfl, rfl⟩
  | some value =>
    obtain ⟨before, behind, hentries, -⟩ := List.lookup_eq_some_iff.mp hlookup
    exact .inr ⟨value, rfl, by simp [hentries], rfl⟩

/-- Looking a key up does not change how much a cache can hold. -/
theorem capacity_get (cache : Cache κ α) (key : κ) :
    (cache.get key).2.capacity = cache.capacity := by
  unfold get
  split <;> rfl

/-- Every look-up is counted. -/
theorem counts_get (cache : Cache κ α) (key : κ) :
    (cache.get key).2.hits + (cache.get key).2.misses = cache.hits + cache.misses + 1 := by
  unfold get
  cases cache.entries.lookup key with
  | none => rfl
  | some value => exact Nat.add_right_comm _ _ _

/-- Setting a key sends it to the end. If it is new and the cache is full, the first key makes room.
-/
theorem keys_set (cache : Cache κ α) (key : κ) (value : α) :
    (cache.set key value).keys =
      if key ∈ cache.keys then touchedAgain cache.keys key
      else if cache.capacity ≤ cache.keys.length then cache.keys.drop 1 ++ [key]
      else cache.keys ++ [key] := by
  unfold set
  simp only [contains_iff, length_keys]
  split
  · exact cache.map_fst_others_append key value
  · split
    · simp [keys]
    · simp [keys]

/-- If a cache keeps the keys that were touched last, it does so after one more is set. -/
theorem kept_set {cache : Cache κ α} {touches : List κ}
    (h : Kept cache.capacity touches.dedup cache.keys) (key : κ) (value : α) :
    Kept cache.capacity (touches ++ [key]).dedup (cache.set key value).keys := by
  rw [dedup_concat, keys_set]
  split
  · next hkey => exact h.touch_mem (List.nodup_dedup _) hkey
  · next hkey =>
    split
    · next hfull => exact h.touch_of_full cache.capacity_pos hkey hfull
    · next hroom => exact h.touch_of_room hkey (Nat.lt_of_not_le hroom)

/-- After a key is set, every entry is the new one or an entry of another key from before. -/
theorem mem_entries_of_mem_set {cache : Cache κ α} {key : κ} {value : α} {entry : κ × α}
    (hentry : entry ∈ (cache.set key value).entries) :
    entry = (key, value) ∨ entry ∈ cache.entries ∧ entry.1 ≠ key := by
  rcases List.mem_append.mp hentry with hkept | hset
  · right
    by_cases hcontains : cache.contains key = true
    · rw [if_pos hcontains] at hkept
      obtain ⟨hmem, hne⟩ := List.mem_filter.mp hkept
      exact ⟨hmem, of_decide_eq_true hne⟩
    · rw [if_neg hcontains] at hkept
      have hmem : entry ∈ cache.entries := by
        split at hkept
        · exact List.mem_of_mem_drop hkept
        · exact hkept
      refine ⟨hmem, ?_⟩
      rintro rfl
      exact hcontains ((cache.contains_iff _).mpr (List.mem_map_of_mem hmem))
  · exact .inl (List.mem_singleton.mp hset)

/-! ## What a cache remembers of its history -/

/-- What is true of a cache after exchanges with it. -/
structure Remembers (exchanges : List (CacheExchange κ α)) (cache : Cache κ α) : Prop where
  kept : Kept cache.capacity (recency exchanges) cache.keys
  values : ∀ entry ∈ cache.entries, lastSet? entry.1 exchanges = some entry.2
  /-- Only keys that have been set are ever touched. -/
  touched : ∀ key, key ∈ touches exchanges ↔ (lastSet? key exchanges).isSome = true
  counted : cache.hits + cache.misses = lookups exchanges

variable {exchanges : List (CacheExchange κ α)} {cache : Cache κ α}

/-- An empty cache without counts remembers that nothing has happened since it was cleared. -/
theorem remembers_of_empty (hexchanges : sinceClear exchanges = []) (hentries : cache.entries = [])
    (hcounts : cache.hits + cache.misses = 0) : cache.Remembers exchanges := by
  have hkeys : cache.keys = [] := by rw [keys, hentries, List.map_nil]
  constructor
  case kept =>
    rw [recency, touches, hexchanges, hkeys]
    exact ⟨⟨[], rfl, .inl rfl⟩, Nat.zero_le _⟩
  case values =>
    intro entry hentry
    rw [hentries] at hentry
    exact absurd hentry List.not_mem_nil
  case touched =>
    intro key
    simp [touches, lastSet?, hexchanges]
  case counted => rw [hcounts, lookups, hexchanges, List.countP_nil]

/-- A look-up is remembered. -/
theorem Remembers.get (h : cache.Remembers exchanges) (key : κ) :
    (cache.get key).2.Remembers (exchanges ++ [⟨.get key, (cache.get key).1⟩]) := by
  have hclears : clears (⟨.get key, (cache.get key).1⟩ : CacheExchange κ α) = false := rfl
  have hlast : ∀ other, lastSet? other (exchanges ++ [⟨.get key, (cache.get key).1⟩]) =
      lastSet? other exchanges := fun other => lastSet?_concat other hclears
  have hcounted : (cache.get key).2.hits + (cache.get key).2.misses =
      lookups (exchanges ++ [⟨.get key, (cache.get key).1⟩]) := by
    rw [counts_get, h.counted, lookups_concat hclears]
    rfl
  rcases cache.get_cases key with ⟨hfound, hentries⟩ | ⟨value, hfound, hmem, hentries⟩
  · have hkeys : (cache.get key).2.keys = cache.keys := by rw [keys, hentries, keys]
    have htouches : touches (exchanges ++ [⟨.get key, (cache.get key).1⟩]) = touches exchanges := by
      rw [touches_concat hclears, hfound]
      exact List.append_nil _
    constructor
    case kept =>
      rw [capacity_get, recency, htouches, hkeys]
      exact h.kept
    case values =>
      intro entry hentry
      rw [hentries] at hentry
      exact (hlast _).trans (h.values entry hentry)
    case touched =>
      intro other
      rw [htouches, hlast]
      exact h.touched other
    case counted => exact hcounted
  · have hkey : key ∈ cache.keys := List.mem_map_of_mem hmem
    have hkeys : (cache.get key).2.keys = touchedAgain cache.keys key := by
      rw [keys, hentries, map_fst_others_append]
    have htouches : touches (exchanges ++ [⟨.get key, (cache.get key).1⟩]) =
        touches exchanges ++ [key] := by
      rw [touches_concat hclears, hfound]
      rfl
    have hset : (lastSet? key exchanges).isSome = true := by
      rw [h.values _ hmem]
      rfl
    constructor
    case kept =>
      rw [capacity_get, recency, htouches, hkeys, dedup_concat]
      exact h.kept.touch_mem (List.nodup_dedup _) hkey
    case values =>
      intro entry hentry
      rw [hentries] at hentry
      rcases List.mem_append.mp hentry with hother | hsame
      · exact (hlast _).trans (h.values entry (List.mem_filter.mp hother).1)
      · rw [List.mem_singleton.mp hsame]
        exact (hlast _).trans (h.values _ hmem)
    case touched =>
      intro other
      rw [htouches, hlast, List.mem_append, List.mem_singleton, h.touched]
      constructor
      · rintro (hother | rfl)
        · exact hother
        · exact hset
      · exact .inl
    case counted => exact hcounted

/-- A value that is set is remembered. -/
theorem Remembers.set (h : cache.Remembers exchanges) (key : κ) (value : α) :
    (cache.set key value).Remembers (exchanges ++ [⟨.set key value, none⟩]) := by
  have hclears : clears (⟨.set key value, none⟩ : CacheExchange κ α) = false := rfl
  have htouches : touches (exchanges ++ [⟨.set key value, none⟩]) = touches exchanges ++ [key] :=
    touches_concat hclears
  have hlast : ∀ other, lastSet? other (exchanges ++ [⟨.set key value, none⟩]) =
      if key = other then some value else lastSet? other exchanges := by
    intro other
    rw [lastSet?_concat other hclears]
    by_cases hother : key = other <;> simp [setTo?, hother]
  constructor
  case kept =>
    rw [recency, htouches]
    exact kept_set h.kept key value
  case values =>
    intro entry hentry
    rw [hlast]
    rcases mem_entries_of_mem_set hentry with rfl | ⟨hmem, hne⟩
    · exact if_pos rfl
    · rw [if_neg (Ne.symm hne)]
      exact h.values entry hmem
  case touched =>
    intro other
    rw [htouches, hlast, List.mem_append, List.mem_singleton, h.touched]
    by_cases hother : key = other
    · simp [hother]
    · simp [hother, Ne.symm hother]
  case counted =>
    rw [lookups_concat hclears]
    exact h.counted

/-- Every call is remembered, or has everything before it forgotten. -/
theorem Remembers.perform (h : cache.Remembers exchanges) (call : CacheCall κ α) :
    (cache.perform call).2.Remembers (exchanges ++ [⟨call, (cache.perform call).1⟩]) := by
  cases call with
  | get key => exact h.get key
  | set key value => exact h.set key value
  | clear => exact remembers_of_empty (sinceClear_of_clears rfl) rfl rfl

/-- All calls are remembered, since the last one that clears the cache. -/
theorem Remembers.performAll (h : cache.Remembers exchanges) (calls : List (CacheCall κ α)) :
    (cache.performAll calls).2.Remembers (exchanges ++ (cache.performAll calls).1) := by
  induction calls generalizing cache exchanges with
  | nil =>
    rw [Cache.performAll, List.append_nil]
    exact h
  | cons call rest ih =>
    have hrest := ih (h.perform call)
    rwa [List.append_assoc] at hrest

/-- Calls do not change how much a cache can hold. -/
theorem capacity_performAll (cache : Cache κ α) (calls : List (CacheCall κ α)) :
    (cache.performAll calls).2.capacity = cache.capacity := by
  induction calls generalizing cache with
  | nil => rfl
  | cons call rest ih =>
    have hcall : (cache.perform call).2.capacity = cache.capacity := by
      cases call with
      | get key => exact cache.capacity_get key
      | set key value => rfl
      | clear => rfl
    exact (ih _).trans hcall

/-- A cache holds what was used last: what it does is told from the exchanges with it. -/
structure HoldsLastUsed (exchanges : List (CacheExchange κ α)) (cache : Cache κ α) : Prop where
  /-- The keys, the least recently used one first, are those that were touched last. -/
  keys : cache.keys = (recency exchanges).rtake cache.capacity
  values : ∀ entry ∈ cache.entries, lastSet? entry.1 exchanges = some entry.2
  /-- A key is found exactly if it has been set and few other keys were touched since. -/
  found : ∀ key, (cache.get key).1.isSome = true ↔
    (lastSet? key exchanges).isSome = true ∧
      (touchedBehind key exchanges).length < cache.capacity
  answer : ∀ key value, (cache.get key).1 = some value → lastSet? key exchanges = some value
  size_le : cache.size ≤ cache.capacity
  /-- Nothing makes room for a key that is there. -/
  keeps : ∀ key value, cache.contains key = true → (cache.set key value).keys.Perm cache.keys
  counted : cache.hits + cache.misses = lookups exchanges

/-- A cache that remembers exchanges holds what was used last in them. -/
theorem Remembers.holdsLastUsed (h : cache.Remembers exchanges) :
    cache.HoldsLastUsed exchanges := by
  have hnodup : cache.keys.Nodup := by
    have hall : (recency exchanges).Nodup := List.nodup_dedup _
    obtain ⟨older, horder, -⟩ := h.kept.older
    rw [horder] at hall
    exact (List.nodup_append.mp hall).2.1
  constructor
  case keys => exact h.kept.eq_rtake
  case values => exact h.values
  case found =>
    intro key
    rw [isSome_get_iff, h.kept.mem_iff, h.touched]
    rfl
  case answer =>
    intro key value hanswer
    rcases cache.get_cases key with ⟨hnone, -⟩ | ⟨stored, hsome, hmem, -⟩
    · rw [hnone] at hanswer
      cases hanswer
    · rw [hsome, Option.some.injEq] at hanswer
      exact hanswer ▸ h.values _ hmem
  case size_le => exact cache.length_keys ▸ h.kept.length_le
  case keeps =>
    intro key value hcontains
    have hkey := (cache.contains_iff key).mp hcontains
    rw [keys_set, if_pos hkey]
    exact perm_touchedAgain hnodup hkey
  case counted => exact h.counted

/-- **Caches hold what was used last.** A cache of every positive capacity can be made. Whatever it
is asked for, of the keys that were set, or looked up and found, since it was last cleared, it holds
the last ones up to its capacity, each with the value that it was set to last. -/
theorem holds_last_used (κ α : Type) [DecidableEq κ] (capacity : Whole)
    (hcapacity : 0 < capacity.toInt) :
    ∃ start : Cache κ α, create capacity = .ok start ∧ ∀ calls : List (CacheCall κ α),
      (start.performAll calls).2.capacity = capacity.toInt.toNat ∧
        (start.performAll calls).2.HoldsLastUsed (start.performAll calls).1 := by
  have hpos : 0 < capacity.toInt.toNat := by omega
  refine ⟨{ capacity := capacity.toInt.toNat, capacity_pos := hpos }, dif_pos hpos, ?_⟩
  intro calls
  have hstart : Remembers ([] : List (CacheExchange κ α))
      { capacity := capacity.toInt.toNat, capacity_pos := hpos } := remembers_of_empty rfl rfl rfl
  exact ⟨capacity_performAll _ calls, (hstart.performAll calls).holdsLastUsed⟩

/-- Calls that use a cache of two values up, come back to a key that it has dropped, and set one
that it holds. -/
def usedUp : List (CacheCall String Nat) :=
  [.set "x" 0, .clear, .set "a" 1, .set "b" 2, .get "a", .set "c" 3, .get "b", .set "a" 4,
    .set "b" 5]

/-- Two values are held, of the keys that were touched last; the key that was dropped twice is
missed. -/
theorem holds_last_used_usedUp :
    0 < (Whole.number 2).toInt ∧
      recency ((Cache.performAll { capacity := 2, capacity_pos := Nat.two_pos } usedUp).1) =
        ["c", "a", "b"] ∧
      (Cache.performAll { capacity := 2, capacity_pos := Nat.two_pos } usedUp).2.entries =
        [("a", 4), ("b", 5)] ∧
      ∃ start : Cache String Nat, create (.number 2) = .ok start ∧
        ∀ calls : List (CacheCall String Nat),
          (start.performAll calls).2.capacity = 2 ∧
            (start.performAll calls).2.HoldsLastUsed (start.performAll calls).1 :=
  ⟨by decide, by decide, by decide, holds_last_used String Nat (.number 2) (by decide)⟩

end Cache

end RouteAudit
