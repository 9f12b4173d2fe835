import RouteAudit.Proofs.AcceptedOptions
import RouteAudit.Proofs.AlignedClashes
import RouteAudit.Proofs.FaithfulForms

/-!
# Verdicts of duplication

At the segment levels paths with the same form have segments of the same nature, one by one, so only
the constraints of parameters can make them clash. Paths are duplicates, then, exactly if they share
their form and no two constraints of theirs in the same place differ; and paths that only differing
constraints keep from being duplicates are told apart by the first of these.
-/

namespace RouteAudit

namespace Segment

/-- Two segments are parameters with different constraints. -/
structure ConstraintsDiffer (left right : Segment) : Prop where
  leftConstrained : left.kind = .constrainedParam
  rightConstrained : right.kind = .constrainedParam
  differ : left.constraint? ≠ right.constraint?

/-- A segment with a constraint is a parameter with one. -/
theorem isSome_constraint?_iff (segment : Segment) :
    segment.constraint?.isSome = true ↔ segment.kind = .constrainedParam := by
  unfold constraint? kind
  cases segment.shape with
  | param name optional => cases optional <;> simp
  | literal | constrained | compound | wildcard => simp

variable {left right : Segment}

/-- Parameters with different constraints are those that have two constraints, and not the same. -/
theorem constraintsDiffer_iff :
    ConstraintsDiffer left right ↔ left.constraint?.isSome = true ∧
      right.constraint?.isSome = true ∧ left.constraint? ≠ right.constraint? := by
  rw [isSome_constraint?_iff, isSome_constraint?_iff]
  exact ⟨fun h => ⟨h.leftConstrained, h.rightConstrained, h.differ⟩, fun h => ⟨h.1, h.2.1, h.2.2⟩⟩

/-- Segments of the same nature clash exactly if they have different constraints. -/
theorem SameNature.clashes_iff (h : SameNature left right) :
    Clashes left right ↔ ConstraintsDiffer left right := by
  rw [constraintsDiffer_iff, Clashes, Clash.of?, h.static, h.wildcard]
  cases left.constraint? <;> cases right.constraint? <;> simp

/-- The only clash of segments of the same nature is that of constraints. -/
theorem SameNature.eq_constraints (h : SameNature left right) {kind : Clash}
    (hclash : Clash.of? left right = some kind) : kind = .constraints := by
  simp only [Clash.of?, h.static, h.wildcard, bne_self_eq_false, Bool.false_eq_true, if_false]
    at hclash
  split at hclash
  · split at hclash
    · cases hclash
      rfl
    · cases hclash
  · cases hclash

/-- Where lists are related segment by segment, every two aligned segments are related. -/
theorem PairAt.of_forall₂ {related : Segment → Segment → Prop} {lefts rights : List Segment}
    {place : Nat} (hpair : PairAt lefts rights place left right)
    (h : List.Forall₂ related lefts rights) : related left right := by
  induction h generalizing place with
  | nil => cases hpair.left
  | cons hheads _ ih =>
    cases place with
    | zero =>
      obtain ⟨rfl, rfl⟩ := pairAt_cons_zero_iff.mp hpair
      exact hheads
    | succ place => exact ih (pairAt_cons_succ_iff.mp hpair)

/-- Lists whose segments are of the same nature clash exactly at different constraints. -/
theorem firstClash?_cases_of_sameNature {lefts rights : List Segment}
    (h : List.Forall₂ SameNature lefts rights) :
    (firstClash? lefts rights = none ∧ NoneAt ConstraintsDiffer lefts rights) ∨
      ∃ place a b, firstClash? lefts rights = some (.constraints, a, b) ∧
        FirstAt ConstraintsDiffer lefts rights place a b := by
  have hiff : ∀ place a b, PairAt lefts rights place a b → (Clashes a b ↔ ConstraintsDiffer a b) :=
    fun _ _ _ hpair => (hpair.of_forall₂ h).clashes_iff
  rcases firstClash?_cases lefts rights with
    ⟨hnone, hnowhere⟩ | ⟨kind, place, a, b, hfound, hkind, hfirst⟩
  · exact .inl ⟨hnone, hnowhere.congr hiff⟩
  · obtain rfl := (hfirst.pair.of_forall₂ h).eq_constraints hkind
    exact .inr ⟨place, a, b, hfound, hfirst.congr hiff⟩

end Segment

open Segment (ConstraintsDiffer NoneAt FirstAt)

namespace Verdict

variable {left right : String} {level : Level}

/-- No segment of a path differs from itself in its constraint. -/
theorem noneAt_self (segments : List Segment) : NoneAt ConstraintsDiffer segments segments := by
  intro place a b hpair hdiffer
  have hsame : some a = some b := hpair.left.symm.trans hpair.right
  cases hsame
  exact hdiffer.differ rfl

/-- At the segment levels paths with the same form are duplicates, or they are told apart by the
first constraints that differ. -/
theorem between_of_form_eq (hlevel : level ≠ .raw)
    (hform : canonicalForm left level = canonicalForm right level) :
    ((between left right level).kind.isDuplicate = true ∧
        NoneAt ConstraintsDiffer (Segment.ofPath left) (Segment.ofPath right)) ∨
      ∃ place a b, between left right level = .clash .constraints a b ∧
        FirstAt ConstraintsDiffer (Segment.ofPath left) (Segment.ofPath right) place a b := by
  by_cases hsame : left = right
  · subst hsame
    exact .inl ⟨by simp [between, bySegments?, kind, ConflictKind.isDuplicate], noneAt_self _⟩
  · have hnature := Segment.forall₂_sameNature
      ((canonicalForm_eq_iff_sameText hlevel left right).mp hform)
    have hlength := hnature.length_eq
    rcases Segment.firstClash?_cases_of_sameNature hnature with
      ⟨hnone, hnowhere⟩ | ⟨place, a, b, hfound, hfirst⟩
    · have hverdict : between left right level = .renamed := by
        simp [between, bySegments?, hsame, hlength, hnone, hlevel, hform]
      exact .inl ⟨by rw [hverdict]; rfl, hnowhere⟩
    · have hverdict : between left right level = .clash .constraints a b := by
        simp [between, bySegments?, hsame, hlength, hfound]
      exact .inr ⟨place, a, b, hverdict, hfirst⟩

/-- A clash is no duplication. -/
theorem isDuplicate_clash (clash : Clash) (a b : Segment) :
    (Verdict.clash clash a b).kind.isDuplicate = false := by
  cases clash <;> rfl

/-- Paths with different forms are no duplicates. -/
theorem isDuplicate_of_form_ne (hform : canonicalForm left level ≠ canonicalForm right level) :
    (between left right level).kind.isDuplicate = false := by
  have hne : left ≠ right := by
    rintro rfl
    exact hform rfl
  by_cases hlength : (Segment.ofPath left).length = (Segment.ofPath right).length
  · cases hwalk : firstClash? (Segment.ofPath left) (Segment.ofPath right) with
    | some found => simp [between, bySegments?, hne, hlength, hwalk, isDuplicate_clash]
    | none =>
      have hverdict : between left right level = .unrelated := by
        simp [between, bySegments?, hne, hlength, hwalk, hform]
      rw [hverdict]
      rfl
  · rw [between_of_length_ne level hlength]
    rfl

end Verdict

/-- A value that names a level is found to be that level. -/
theorem Level.ofJson?_of_ofJson {given : Json} {level : Level} (h : ofJson given = .ok level) :
    ofJson? given = some level := by
  unfold ofJson at h
  split at h
  · cases h
  · next hlevel =>
    cases h
    exact hlevel
  · cases h

namespace Normalizer

/-- A value that names a level asks for a comparison at this level. -/
theorem compareAt_of_level {given : Json} {level : Level} (h : Level.ofJson given = .ok level)
    (normalizer : Normalizer) (left right : String) :
    normalizer.compareAt left right given = .ok (normalizer.compare left right level) := by
  have hpositive := Json.isPositive_of_isNumber
    (Level.isNumber_of_ofJson? (Level.ofJson?_of_ofJson h))
  unfold compareAt compare
  cases hsegments : Verdict.bySegments? left right with
  | some verdict => rfl
  | none => cases level <;> simp [hpositive, h, Except.map]

/-- **Duplicates share their form and their constraints.** At the segment levels a normalizer of any
capacity, after any calls, finds two paths to be duplicates exactly if they have the same form and
no two of their segments in the same place have different constraints. If they have the same form
and are no duplicates, it reports the first such segments. -/
theorem duplicates_share_forms {capacity : Whole} {start : Normalizer}
    (hstart : create capacity = .ok start) (calls otherCalls : List NormalizerCall)
    (left right : String) {given : Json} {level : Level} (hgiven : Level.ofJson given = .ok level)
    (hlevel : level ≠ .raw) (keep otherKeep : Bool) :
    ∃ verdict leftForm rightForm,
      (start.after calls).compareAt left right given = .ok verdict ∧
      (start.after otherCalls).normalizeAt left given keep = .ok leftForm ∧
      leftForm.2.normalizeAt right given otherKeep = .ok rightForm ∧
      (verdict.1.kind.isDuplicate = true ↔
        leftForm.1 = rightForm.1 ∧
          NoneAt ConstraintsDiffer (Segment.ofPath left) (Segment.ofPath right)) ∧
      (leftForm.1 = rightForm.1 → verdict.1.kind.isDuplicate = false →
        verdict.1.kind = .differentConstraints ∧
          ∃ place a b, verdict.1.segments? = some (a, b) ∧
            FirstAt ConstraintsDiffer (Segment.ofPath left) (Segment.ofPath right) place a b) := by
  have hsound := (sound_of_create hstart).after calls
  have hother := (sound_of_create hstart).after otherCalls
  have hnext := hother.normalize left level keep
  refine ⟨_, _, _, compareAt_of_level hgiven _ _ _, normalizeAt_of_level hgiven _ _ _,
    normalizeAt_of_level hgiven _ _ _, ?_⟩
  rw [hsound.compare_fst, hother.normalize_fst, hnext.normalize_fst]
  by_cases hform : canonicalForm left level = canonicalForm right level
  · rcases Verdict.between_of_form_eq hlevel hform with
      ⟨hduplicate, hnowhere⟩ | ⟨place, a, b, hverdict, hfirst⟩
    · exact ⟨iff_of_true hduplicate ⟨hform, hnowhere⟩, fun _ hnot => by simp [hduplicate] at hnot⟩
    · rw [hverdict]
      have hsomewhere : ¬NoneAt ConstraintsDiffer (Segment.ofPath left) (Segment.ofPath right) :=
        fun hnowhere => hnowhere place a b hfirst.pair hfirst.found
      exact ⟨iff_of_false Bool.false_ne_true fun h => hsomewhere h.2,
        fun _ _ => ⟨rfl, place, a, b, rfl, hfirst⟩⟩
  · have hnot := Verdict.isDuplicate_of_form_ne hform
    exact ⟨iff_of_false (by simp [hnot]) fun h => hform h.1, fun h => absurd h hform⟩

/-- Two pairs of constraints stand in the same places; only the second pair differs, and it is
reported. -/
theorem duplicates_share_forms_constrained :
    create (.number 1) = .ok oneForm ∧ Level.ofJson (.int 1) = .ok .relaxed ∧
      Level.relaxed ≠ .raw ∧
      (oneForm.compare "/:id(\\d+)/x/:a(y)" "/:name(\\d+)/x/:b(z)" .relaxed).1 =
        .clash .constraints (Segment.parse ":a(y)") (Segment.parse ":b(z)") ∧
      (oneForm.compare "/:id(\\d+)/x/:a(y)" "/:name(\\d+)/x/:b" .relaxed).1 = .renamed ∧
      ∃ verdict leftForm rightForm,
        (oneForm.after [.clear]).compareAt "/:id(\\d+)/x/:a(y)" "/:name(\\d+)/x/:b(z)" (.int 1) =
          .ok verdict ∧
        (oneForm.after []).normalizeAt "/:id(\\d+)/x/:a(y)" (.int 1) true = .ok leftForm ∧
        leftForm.2.normalizeAt "/:name(\\d+)/x/:b(z)" (.int 1) false = .ok rightForm ∧
        (verdict.1.kind.isDuplicate = true ↔
          leftForm.1 = rightForm.1 ∧
            NoneAt ConstraintsDiffer (Segment.ofPath "/:id(\\d+)/x/:a(y)")
              (Segment.ofPath "/:name(\\d+)/x/:b(z)")) ∧
        (leftForm.1 = rightForm.1 → verdict.1.kind.isDuplicate = false →
          verdict.1.kind = .differentConstraints ∧
            ∃ place a b, verdict.1.segments? = some (a, b) ∧
              FirstAt ConstraintsDiffer (Segment.ofPath "/:id(\\d+)/x/:a(y)")
                (Segment.ofPath "/:name(\\d+)/x/:b(z)") place a b) := by
  have hstart : create (.number 1) = .ok oneForm := rfl
  have hgiven : Level.ofJson (.int 1) = .ok .relaxed := rfl
  have hlevel : Level.relaxed ≠ .raw := nofun
  exact ⟨hstart, hgiven, hlevel, by decide +kernel, by decide +kernel,
    duplicates_share_forms hstart [.clear] [] "/:id(\\d+)/x/:a(y)" "/:name(\\d+)/x/:b(z)" hgiven
      hlevel true false⟩

end Normalizer

end RouteAudit
