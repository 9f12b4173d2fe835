import RouteAudit.Proofs.CacheSoundness

/-!
# Histories of normalizers

What a normalizer is asked over time: for forms, for comparisons, and to forget what it remembers.
All that it ever remembers are the forms of their paths, so at any time it gives canonical forms. A
form that it has given is its own form, whatever it has been asked for since.
-/

namespace RouteAudit

/-- Something that a normalizer is asked for. Levels are named by values. -/
inductive NormalizerCall where
  | normalize (path : String) (given : Json) (keepConstraints : Bool)
  | compare (left right : String) (given : Json)
  | clear

namespace Normalizer

/-- The normalizer after a call. Where the value is no level, nothing changes. -/
def step (normalizer : Normalizer) : NormalizerCall → Normalizer
  | .normalize path given keepConstraints =>
      match normalizer.normalizeAt path given keepConstraints with
      | .ok (_, next) => next
      | .error _ => normalizer
  | .compare left right given =>
      match normalizer.compareAt left right given with
      | .ok (_, next) => next
      | .error _ => normalizer
  | .clear => ⟨normalizer.cache.clear⟩

/-- The normalizer that calls lead to. -/
def after (normalizer : Normalizer) (calls : List NormalizerCall) : Normalizer :=
  calls.foldl step normalizer

/-- A value that names a level asks for the form at this level. -/
theorem normalizeAt_of_level {given : Json} {level : Level} (h : Level.ofJson given = .ok level)
    (normalizer : Normalizer) (path : String) (keep : Bool) :
    normalizer.normalizeAt path given keep = .ok (normalizer.normalize path level keep) := by
  rw [normalizeAt, h]
  rfl

/-- A new normalizer remembers nothing. -/
theorem sound_of_create {capacity : Whole} {normalizer : Normalizer}
    (h : create capacity = .ok normalizer) : normalizer.Sound := by
  unfold create Cache.create at h
  split at h
  · cases h
    exact fun entry hentry => absurd hentry List.not_mem_nil
  · cases h

variable {normalizer : Normalizer}

/-- Comparing at a level that a value names keeps a normalizer sound. -/
theorem Sound.compareAt (h : normalizer.Sound) {left right : String} {given : Json}
    {verdict : Verdict} {next : Normalizer}
    (hok : normalizer.compareAt left right given = .ok (verdict, next)) : next.Sound := by
  unfold Normalizer.compareAt at hok
  split at hok
  · cases hok
    exact h
  · split at hok
    · cases hlevel : Level.ofJson given with
      | error fault => simp only [hlevel, Except.map, reduceCtorEq] at hok
      | ok level =>
        simp only [hlevel, Except.map, Except.ok.injEq] at hok
        have hnext := h.compare left right level
        rwa [hok] at hnext
    · cases hok
      exact h

/-- Every call keeps a normalizer sound. -/
theorem Sound.step (h : normalizer.Sound) (call : NormalizerCall) : (normalizer.step call).Sound := by
  cases call with
  | normalize path given keep =>
    cases hlevel : Level.ofJson given with
    | error fault =>
      simp only [Normalizer.step, Normalizer.normalizeAt, hlevel, Except.map]
      exact h
    | ok level =>
      simp only [Normalizer.step, normalizeAt_of_level hlevel]
      exact h.normalize path level keep
  | compare left right given =>
    simp only [Normalizer.step]
    cases hok : normalizer.compareAt left right given with
    | error fault => exact h
    | ok done => exact h.compareAt hok
  | clear => exact Cache.sound_clear _

/-- Calls keep a normalizer sound. -/
theorem Sound.after (h : normalizer.Sound) (calls : List NormalizerCall) :
    (normalizer.after calls).Sound := by
  induction calls generalizing normalizer with
  | nil => exact h
  | cons call rest ih => exact ih (h.step call)

/-- **Normalizing is idempotent.** A normalizer of any capacity, after any calls, gives a form of
every path at every level. Asked for the form of this form at the same level, at once or after more
calls, it gives the form itself, whether constraints are to be kept apart or not. -/
theorem normalize_idempotent {capacity : Whole} {start : Normalizer}
    (hstart : create capacity = .ok start) (calls between : List NormalizerCall) (path : String)
    {given : Json} {level : Level} (hlevel : Level.ofJson given = .ok level)
    (keep otherKeep : Bool) :
    ∃ once twice, (start.after calls).normalizeAt path given keep = .ok once ∧
      (once.2.after between).normalizeAt once.1 given otherKeep = .ok twice ∧
      twice.1 = once.1 := by
  have hsound := (sound_of_create hstart).after calls
  have hlater := (hsound.normalize path level keep).after between
  refine ⟨_, _, normalizeAt_of_level hlevel _ _ _, normalizeAt_of_level hlevel _ _ _, ?_⟩
  rw [hlater.normalize_fst, hsound.normalize_fst, canonicalForm_canonicalForm]

/-- A normalizer that remembers one form at a time. -/
def oneForm : Normalizer :=
  ⟨{ capacity := 1, capacity_pos := Nat.one_pos }⟩

/-- An optional constraint and two kinds of wildcards are normalized at the level that a truth value
names; by the time the form is normalized, it has been forgotten. -/
theorem normalize_idempotent_constrained :
    create (.number 1) = .ok oneForm ∧ Level.ofJson (.bool true) = .ok .relaxed ∧
      (oneForm.normalize "x/:id(\\d+)?//**/:rest*" .relaxed true).1 = "/x/:param/*/*" ∧
      ∃ once twice,
        (oneForm.after [.compare "/:a" "/:b" (.int 2)]).normalizeAt "x/:id(\\d+)?//**/:rest*"
            (.bool true) true = .ok once ∧
          (once.2.after [.normalize "/:a" (.int 1) false]).normalizeAt once.1 (.bool true) false =
            .ok twice ∧
          twice.1 = once.1 := by
  have hstart : create (.number 1) = .ok oneForm := rfl
  have hlevel : Level.ofJson (.bool true) = .ok .relaxed := rfl
  exact ⟨hstart, hlevel, by decide +kernel, normalize_idempotent hstart
    [.compare "/:a" "/:b" (.int 2)] [.normalize "/:a" (.int 1) false] "x/:id(\\d+)?//**/:rest*"
    hlevel true false⟩

end Normalizer

end RouteAudit
