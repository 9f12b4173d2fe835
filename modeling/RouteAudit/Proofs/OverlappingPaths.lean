import RouteAudit.Proofs.SwappedPaths

/-!
# Conflicts between paths that overlap

Where two paths have different literals in the same place, nothing matches both of them. Duplicates
never have such literals, and a verdict never names them. But the rules for segments do not look at
pairs of literals at all: the walk along two paths passes over different literals, and it ends at
the first pair that a rule tells apart, whatever stands behind it. So a pair of segments that are
told apart is reported as a conflict also where other literals keep the paths from overlapping.
-/

namespace RouteAudit

namespace Segment

/-- Two segments are literals with different texts. -/
structure LiteralsDiffer (left right : Segment) : Prop where
  leftStatic : left.isStatic = true
  rightStatic : right.isStatic = true
  differ : left.raw ≠ right.raw

variable {left right : Segment}

/-- A literal is no wildcard. -/
theorem isWildcard_of_isStatic {segment : Segment} (h : segment.isStatic = true) :
    segment.isWildcard = false := by
  rw [isStatic, beq_iff_eq] at h
  rw [isWildcard, h]
  rfl

/-- The normalized text of a literal is its text. -/
theorem normalized_of_isStatic {segment : Segment} (h : segment.isStatic = true) :
    segment.normalized = segment.raw := by
  rw [isStatic, beq_iff_eq, kind] at h
  unfold normalized
  cases hshape : segment.shape with
  | literal => rfl
  | param name optional => cases optional <;> simp [hshape] at h
  | constrained | compound | wildcard => simp [hshape] at h

/-- Different literals have different normalized texts. -/
theorem LiteralsDiffer.not_sameText (h : LiteralsDiffer left right) : ¬SameText left right := by
  rw [SameText, normalized_of_isStatic h.leftStatic, normalized_of_isStatic h.rightStatic]
  exact h.differ

/-- No rule tells literals apart. -/
theorem LiteralsDiffer.not_toldApart (h : LiteralsDiffer left right) : ¬ToldApart left right := by
  rintro ⟨rule, hrule⟩
  cases hrule with
  | wildcard hdiffer =>
    exact hdiffer
      ((isWildcard_of_isStatic h.leftStatic).trans (isWildcard_of_isStatic h.rightStatic).symm)
  | staticDynamic _ hdiffer => exact hdiffer (h.leftStatic.trans h.rightStatic.symm)
  | constraints hdiffer =>
    have hstatic := h.leftStatic
    rw [isStatic, hdiffer.leftConstrained] at hstatic
    exact absurd hstatic (by decide)

end Segment

open Segment (LiteralsDiffer ToldApart PairAt FirstAt NoneAt SameText exists_firstAt)

namespace Verdict

variable {left right : String} {level : Level}

/-- A verdict of a conflict says that two paths are duplicates or names segments. -/
theorem kind_ne_none_iff (verdict : Verdict) :
    verdict.kind ≠ .none ↔
      verdict.kind.isDuplicate = true ∨ ∃ rule a b, verdict = .clash rule a b := by
  cases verdict with
  | clash rule a b => cases rule <;> simp [kind, ConflictKind.isDuplicate]
  | _ => simp [kind, ConflictKind.isDuplicate]

/-- At the raw level duplicates are written alike. -/
theorem eq_of_isDuplicate_raw (h : (between left right .raw).kind.isDuplicate = true) :
    left = right := by
  by_contra hne
  by_cases hlength : (Segment.ofPath left).length = (Segment.ofPath right).length
  · cases hwalk : firstClash? (Segment.ofPath left) (Segment.ofPath right) with
    | some found => simp [between, bySegments?, hne, hlength, hwalk, isDuplicate_clash] at h
    | none =>
      have hverdict : between left right .raw = .unrelated := by
        simp [between, bySegments?, hne, hlength, hwalk]
      rw [hverdict] at h
      cases h
  · rw [between_of_length_ne .raw hlength] at h
    cases h

/-- Duplicates have segments with the same normalized texts, one by one. -/
theorem forall₂_sameText (h : (between left right level).kind.isDuplicate = true) :
    List.Forall₂ SameText (Segment.ofPath left) (Segment.ofPath right) := by
  by_cases hlevel : level = .raw
  · subst hlevel
    rw [eq_of_isDuplicate_raw h, List.forall₂_same]
    exact fun _ _ => rfl
  · rw [← canonicalForm_eq_iff_sameText hlevel]
    by_contra hform
    rw [isDuplicate_of_form_ne hform] at h
    cases h

/-- Duplicates have the same literals in the same places. -/
theorem noneAt_literalsDiffer (h : (between left right level).kind.isDuplicate = true) :
    NoneAt LiteralsDiffer (Segment.ofPath left) (Segment.ofPath right) :=
  fun _ _ _ hpair hdiffer => hdiffer.not_sameText (hpair.of_forall₂ (forall₂_sameText h))

/-- Paths with different literals in the same place are reported as a conflict exactly if they are
of the same length and a rule tells segments apart in another place. -/
theorem kind_ne_none_iff_of_literalsDiffer {place : Nat} {a b : Segment}
    (hpair : PairAt (Segment.ofPath left) (Segment.ofPath right) place a b)
    (hdiffer : LiteralsDiffer a b) :
    (between left right level).kind ≠ .none ↔
      (Segment.ofPath left).length = (Segment.ofPath right).length ∧
        ∃ elsewhere c d, elsewhere ≠ place ∧
          PairAt (Segment.ofPath left) (Segment.ofPath right) elsewhere c d ∧ ToldApart c d := by
  rw [kind_ne_none_iff]
  constructor
  · rintro (hduplicate | ⟨rule, c, d, hverdict⟩)
    · exact absurd hdiffer (noneAt_literalsDiffer hduplicate place a b hpair)
    · obtain ⟨hlength, -, elsewhere, hfirst⟩ := between_eq_clash_iff.mp hverdict
      refine ⟨hlength, elsewhere, c, d, ?_, hfirst.pair, hfirst.found⟩
      rintro rfl
      obtain ⟨rfl, rfl⟩ := hpair.unique hfirst.pair
      exact hdiffer.not_toldApart hfirst.found
  · rintro ⟨hlength, elsewhere, c, d, -, hother, htold⟩
    obtain ⟨first, e, f, hfirst⟩ := exists_firstAt hother htold
    obtain ⟨rule, hrule⟩ := hfirst.found
    exact .inr ⟨rule, e, f, between_eq_clash_iff.mpr ⟨hlength, hrule, first, hfirst⟩⟩

end Verdict

namespace Normalizer

/-- **What a conflict says of overlaps.** At every level a normalizer of any capacity, after any
calls, finds duplicates only between paths that have the same literals in the same places, and the
segments that it reports are not different literals. Paths that do have different literals in some
place are never duplicates; a conflict is reported between them exactly if they are of the same
length and some rule tells two segments apart in another place. -/
theorem conflicts_and_overlaps {capacity : Whole} {start : Normalizer}
    (hstart : create capacity = .ok start) (calls : List NormalizerCall) (left right : String)
    {given : Json} {level : Level} (hgiven : Level.ofJson given = .ok level) :
    ∃ verdict, (start.after calls).compareAt left right given = .ok verdict ∧
      (verdict.1.kind.isDuplicate = true →
        NoneAt LiteralsDiffer (Segment.ofPath left) (Segment.ofPath right)) ∧
      (∀ a b, verdict.1.segments? = some (a, b) → ¬LiteralsDiffer a b) ∧
      ∀ place a b, PairAt (Segment.ofPath left) (Segment.ofPath right) place a b →
        LiteralsDiffer a b →
        (verdict.1.kind ≠ .none ↔
          (Segment.ofPath left).length = (Segment.ofPath right).length ∧
            ∃ elsewhere c d, elsewhere ≠ place ∧
              PairAt (Segment.ofPath left) (Segment.ofPath right) elsewhere c d ∧
              ToldApart c d) := by
  have hsound := (sound_of_create hstart).after calls
  refine ⟨_, compareAt_of_level hgiven _ _ _, ?_⟩
  rw [hsound.compare_fst]
  refine ⟨Verdict.noneAt_literalsDiffer, ?_,
    fun _ _ _ => Verdict.kind_ne_none_iff_of_literalsDiffer⟩
  intro a b hsegments hdiffer
  obtain ⟨rule, hverdict⟩ := Verdict.eq_clash_of_segments? hsegments
  exact hdiffer.not_toldApart ⟨rule, (Verdict.between_eq_clash_iff.mp hverdict).2.1⟩

/-- The parameters in the middle decide, and not the different literals at the two ends. -/
theorem conflicts_and_overlaps_otherLiterals :
    create (.number 1) = .ok oneForm ∧ Level.ofJson (.int 1) = .ok .relaxed ∧
      (oneForm.compare "/a/:id(x)/b" "/c/:id(y)/d" .relaxed).1 =
        .clash .constraints (Segment.parse ":id(x)") (Segment.parse ":id(y)") ∧
      ∃ verdict,
        (oneForm.after [.clear]).compareAt "/a/:id(x)/b" "/c/:id(y)/d" (.int 1) = .ok verdict ∧
        (verdict.1.kind.isDuplicate = true →
          NoneAt LiteralsDiffer (Segment.ofPath "/a/:id(x)/b") (Segment.ofPath "/c/:id(y)/d")) ∧
        (∀ a b, verdict.1.segments? = some (a, b) → ¬LiteralsDiffer a b) ∧
        ∀ place a b,
          PairAt (Segment.ofPath "/a/:id(x)/b") (Segment.ofPath "/c/:id(y)/d") place a b →
          LiteralsDiffer a b →
          (verdict.1.kind ≠ .none ↔
            (Segment.ofPath "/a/:id(x)/b").length = (Segment.ofPath "/c/:id(y)/d").length ∧
              ∃ elsewhere c d, elsewhere ≠ place ∧
                PairAt (Segment.ofPath "/a/:id(x)/b") (Segment.ofPath "/c/:id(y)/d") elsewhere c d ∧
                ToldApart c d) := by
  have hstart : create (.number 1) = .ok oneForm := rfl
  have hgiven : Level.ofJson (.int 1) = .ok .relaxed := rfl
  exact ⟨hstart, hgiven, by decide +kernel,
    conflicts_and_overlaps hstart [.clear] "/a/:id(x)/b" "/c/:id(y)/d" hgiven⟩

/-- Different literals do not keep a conflict from being reported: nothing below `users` is below
`orders`, too. -/
theorem not_forall_conflicts_overlap :
    ¬∀ left right : String, ∀ level : Level, ∀ verdict,
      fresh.compareAt left right (.int level.number) = .ok verdict → verdict.1.kind ≠ .none →
        NoneAt LiteralsDiffer (Segment.ofPath left) (Segment.ofPath right) := by
  intro h
  have hlevel : Level.ofJson (.int Level.relaxed.number) = .ok .relaxed := rfl
  have hverdict : (fresh.compare "/users/me" "/orders/:id" .relaxed).1.kind ≠ .none := by
    decide +kernel
  have hpair : PairAt (Segment.ofPath "/users/me") (Segment.ofPath "/orders/:id") 0
      (Segment.parse "users") (Segment.parse "orders") := ⟨by decide +kernel, by decide +kernel⟩
  have hdiffer : LiteralsDiffer (Segment.parse "users") (Segment.parse "orders") :=
    ⟨by decide +kernel, by decide +kernel, by decide⟩
  have hanswer := compareAt_of_level hlevel fresh "/users/me" "/orders/:id"
  exact h "/users/me" "/orders/:id" .relaxed _ hanswer hverdict 0 _ _ hpair hdiffer

end Normalizer

end RouteAudit
