import RouteAudit.Proofs.PlainAudit

/-!
# Sound caches

A cache is sound for a function if every stored value is the one that the function computes from
the key. Looking up, storing, dropping and clearing keep a cache sound, and a sound cache answers
like the function. So a normalizer with a sound cache gives canonical forms, and a table of
routers with sound joins resolves names as its routing does.
-/

namespace RouteAudit

namespace Cache

variable {κ α : Type} {f : κ → α}

/-- Every stored value is the one that a function computes from its key. -/
def Sound (f : κ → α) (cache : Cache κ α) : Prop :=
  ∀ entry ∈ cache.entries, entry.2 = f entry.1

/-- A cleared cache is sound for every function. -/
theorem sound_clear (cache : Cache κ α) : cache.clear.Sound f := by
  intro entry hentry
  exact absurd hentry List.not_mem_nil

variable [DecidableEq κ]

/-- The entries under other keys are entries. -/
theorem Sound.of_mem_others {cache : Cache κ α} (h : cache.Sound f) {key : κ} {entry : κ × α}
    (hentry : entry ∈ cache.others key) : entry.2 = f entry.1 :=
  h entry (List.mem_filter.mp hentry).1

/-- A value that a sound cache finds is the value of the function. -/
theorem Sound.eq_of_lookup {cache : Cache κ α} (h : cache.Sound f) {key : κ} {value : α}
    (hlookup : cache.entries.lookup key = some value) : value = f key := by
  obtain ⟨before, behind, hentries, _⟩ := List.lookup_eq_some_iff.mp hlookup
  exact h (key, value) (by simp [hentries])

/-- Looking a key up keeps a cache sound. -/
theorem Sound.get {cache : Cache κ α} (h : cache.Sound f) (key : κ) :
    (cache.get key).2.Sound f := by
  unfold Cache.get
  cases hlookup : cache.entries.lookup key with
  | none => exact h
  | some value =>
    intro entry hentry
    rcases List.mem_append.mp hentry with hentry | hentry
    · exact h.of_mem_others hentry
    · rw [List.mem_singleton.mp hentry]
      exact h.eq_of_lookup hlookup

/-- Storing the value of the function keeps a cache sound, whichever entry makes room. -/
theorem Sound.set {cache : Cache κ α} (h : cache.Sound f) (key : κ) :
    (cache.set key (f key)).Sound f := by
  intro entry hentry
  rcases List.mem_append.mp hentry with hentry | hentry
  · split at hentry
    · exact h.of_mem_others hentry
    · split at hentry
      · exact h entry (List.mem_of_mem_drop hentry)
      · exact h entry hentry
  · rw [List.mem_singleton.mp hentry]

/-- A sound cache answers like the function that it is asked to remember. -/
theorem Sound.getOrCompute_fst {cache : Cache κ α} (h : cache.Sound f) (key : κ) :
    (cache.getOrCompute key fun _ => f key).1 = f key := by
  unfold getOrCompute Cache.get
  cases hlookup : cache.entries.lookup key with
  | none => rfl
  | some value => exact h.eq_of_lookup hlookup

/-- A sound cache stays sound when it is asked. -/
theorem Sound.getOrCompute {cache : Cache κ α} (h : cache.Sound f) (key : κ) :
    (cache.getOrCompute key fun _ => f key).2.Sound f := by
  have hget := h.get key
  unfold Cache.getOrCompute
  split
  · next value asked heq => rwa [heq] at hget
  · next asked heq =>
    rw [heq] at hget
    exact hget.set key

end Cache

/-! ## Normalizers -/

namespace Normalizer

/-- The remembered forms are the forms of their paths. -/
def Sound (normalizer : Normalizer) : Prop :=
  normalizer.cache.Sound fun key => segmentForm key.path

variable {normalizer : Normalizer}

/-- A sound normalizer gives canonical forms. -/
theorem Sound.normalize_fst (h : normalizer.Sound) (path : String) (level : Level) (keep : Bool) :
    (normalizer.normalize path level keep).1 = canonicalForm path level := by
  unfold Normalizer.normalize canonicalForm
  split
  · rfl
  · cases level with
    | raw => rfl
    | relaxed => exact Cache.Sound.getOrCompute_fst h ⟨path, .relaxed, keep⟩
    | strict => exact Cache.Sound.getOrCompute_fst h ⟨path, .strict, keep⟩

/-- Normalizing keeps a normalizer sound. -/
theorem Sound.normalize (h : normalizer.Sound) (path : String) (level : Level) (keep : Bool) :
    (normalizer.normalize path level keep).2.Sound := by
  unfold Normalizer.normalize
  split
  · exact h
  · cases level with
    | raw => exact h
    | relaxed => exact Cache.Sound.getOrCompute h ⟨path, .relaxed, keep⟩
    | strict => exact Cache.Sound.getOrCompute h ⟨path, .strict, keep⟩

/-- A sound normalizer compares paths as if forms were computed afresh. -/
theorem Sound.compare_fst (h : normalizer.Sound) (left right : String) (level : Level) :
    (normalizer.compare left right level).1 = Verdict.between left right level := by
  have hright := (h.normalize left level false).normalize_fst right level false
  unfold Normalizer.compare Verdict.between
  cases Verdict.bySegments? left right with
  | some verdict => rfl
  | none =>
    cases level with
    | raw => rfl
    | relaxed => simp [h.normalize_fst, hright]
    | strict => simp [h.normalize_fst, hright]

/-- Comparing keeps a normalizer sound. -/
theorem Sound.compare (h : normalizer.Sound) (left right : String) (level : Level) :
    (normalizer.compare left right level).2.Sound := by
  have hboth := (h.normalize left level false).normalize right level false
  unfold Normalizer.compare
  cases Verdict.bySegments? left right with
  | some verdict => exact h
  | none =>
    cases level with
    | raw => exact h
    | relaxed => exact hboth
    | strict => exact hboth

end Normalizer

/-! ## Tables of routers -/

namespace RouterTable

/-- The remembered joins are the joins of their mounts. -/
def Sound (table : RouterTable) : Prop :=
  table.joins.Sound Path.join

variable {table : RouterTable}

/-- A sound table joins mounts as if it did so afresh. -/
theorem Sound.joinMounts_fst (h : table.Sound) (mounts : List String) :
    (table.joinMounts mounts).1 = Routing.joined? mounts := by
  unfold RouterTable.joinMounts Routing.joined?
  split
  · rfl
  · exact congrArg some (Cache.Sound.getOrCompute_fst h mounts)

/-- Joining mounts keeps a table sound. -/
theorem Sound.joinMounts (h : table.Sound) (mounts : List String) :
    (table.joinMounts mounts).2.Sound := by
  unfold RouterTable.joinMounts
  split
  · exact h
  · exact Cache.Sound.getOrCompute h mounts

/-- Joining mounts leaves the routing as it is. -/
theorem toRouting_joinMounts (mounts : List String) :
    (table.joinMounts mounts).2.toRouting = table.toRouting := by
  unfold RouterTable.joinMounts
  split <;> rfl

/-- A table resolves a name by joining the mounts of the name. -/
theorem effectivePath_eq_joinMounts (table : RouterTable) (name : String) :
    (table.effectivePath name).value = (table.joinMounts (table.toRouting.mountsOf name)).1 ∧
      (table.effectivePath name).state = (table.joinMounts (table.toRouting.mountsOf name)).2 := by
  unfold RouterTable.effectivePath resolveExported Routing.mountsOf
  cases table.toRouting.local? name with
  | some entry => exact ⟨rfl, rfl⟩
  | none =>
    cases table.toRouting.exportsOf name with
    | nil => exact ⟨rfl, rfl⟩
    | cons first more => exact ⟨rfl, rfl⟩

/-- A sound table resolves names as its routing does. -/
theorem Sound.effectivePath_value (h : table.Sound) (name : String) :
    (table.effectivePath name).value = table.toRouting.pathOf? name := by
  rw [(effectivePath_eq_joinMounts table name).1, h.joinMounts_fst]
  rfl

/-- Resolving a name leaves the routing as it is. -/
theorem toRouting_effectivePath (table : RouterTable) (name : String) :
    (table.effectivePath name).state.toRouting = table.toRouting := by
  rw [(effectivePath_eq_joinMounts table name).2, toRouting_joinMounts]

/-- Resolving a name keeps a table sound. -/
theorem Sound.effectivePath (h : table.Sound) (name : String) :
    (table.effectivePath name).state.Sound := by
  rw [(effectivePath_eq_joinMounts table name).2]
  exact h.joinMounts _

end RouterTable

end RouteAudit
