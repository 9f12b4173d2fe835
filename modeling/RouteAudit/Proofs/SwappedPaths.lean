import RouteAudit.Proofs.DuplicateVerdicts

/-!
# Paths compared the other way round

Every rule for two aligned segments treats both alike. So the walk along two paths ends at the same
place whichever path comes first, and the verdict on the paths is the same one with the segments
swapped. What a normalizer remembers does not show in it. A verdict names two segments exactly if a
rule for segments decides, and then the first two to which such a rule applies.
-/

namespace RouteAudit

namespace Segment

/-- A rule for aligned segments tells two segments apart. The rules do not overlap: a wildcard
beside a literal is told apart as a wildcard. -/
inductive ToldApartBy (left right : Segment) : Clash → Prop where
  | wildcard (hdiffer : left.isWildcard ≠ right.isWildcard) : ToldApartBy left right .wildcard
  | staticDynamic (hwildcard : left.isWildcard = right.isWildcard)
      (hdiffer : left.isStatic ≠ right.isStatic) : ToldApartBy left right .staticDynamic
  | constraints (hdiffer : ConstraintsDiffer left right) : ToldApartBy left right .constraints

/-- Some rule for aligned segments tells two segments apart. -/
def ToldApart (left right : Segment) : Prop :=
  ∃ rule, ToldApartBy left right rule

variable {left right : Segment} {rule : Clash}

/-- Constraints differ the other way round, too. -/
theorem ConstraintsDiffer.symm (h : ConstraintsDiffer left right) : ConstraintsDiffer right left :=
  ⟨h.rightConstrained, h.leftConstrained, h.differ.symm⟩

/-- The rules treat both segments alike. -/
theorem ToldApartBy.symm (h : ToldApartBy left right rule) : ToldApartBy right left rule := by
  cases h with
  | wildcard hdiffer => exact .wildcard hdiffer.symm
  | staticDynamic hwildcard hdiffer => exact .staticDynamic hwildcard.symm hdiffer.symm
  | constraints hdiffer => exact .constraints hdiffer.symm

/-- Parameters with constraints are of the same nature. -/
theorem ConstraintsDiffer.sameNature (h : ConstraintsDiffer left right) :
    SameNature left right where
  static := by rw [isStatic, isStatic, h.leftConstrained, h.rightConstrained]
  wildcard := by rw [isWildcard, isWildcard, h.leftConstrained, h.rightConstrained]

end Segment

open Segment (ToldApartBy ToldApart ConstraintsDiffer SameNature PairAt FirstAt NoneAt Clashes)

/-- Two segments clash as the rules say. -/
theorem Clash.of?_eq_some_iff {left right : Segment} {rule : Clash} :
    Clash.of? left right = some rule ↔ ToldApartBy left right rule := by
  constructor
  · intro hclash
    by_cases hwildcard : left.isWildcard = right.isWildcard
    · by_cases hstatic : left.isStatic = right.isStatic
      · have hsame : SameNature left right := ⟨hstatic, hwildcard⟩
        obtain rfl := hsame.eq_constraints hclash
        exact .constraints (hsame.clashes_iff.mp (by simp [Clashes, hclash]))
      · have hrule : rule = .staticDynamic := by
          simpa [Clash.of?, hwildcard, hstatic] using hclash.symm
        rw [hrule]
        exact .staticDynamic hwildcard hstatic
    · have hrule : rule = .wildcard := by simpa [Clash.of?, hwildcard] using hclash.symm
      rw [hrule]
      exact .wildcard hwildcard
  · intro htold
    cases htold with
    | wildcard hdiffer => simp [Clash.of?, hdiffer]
    | staticDynamic hwildcard hdiffer => simp [Clash.of?, hwildcard, hdiffer]
    | constraints hdiffer =>
      have hsame := hdiffer.sameNature
      obtain ⟨kind, hkind⟩ := Option.ne_none_iff_exists'.mp (hsame.clashes_iff.mpr hdiffer)
      rw [hkind, hsame.eq_constraints hkind]

/-- Two segments clash exactly if some rule tells them apart. -/
theorem Segment.clashes_iff_toldApart {left right : Segment} :
    Clashes left right ↔ ToldApart left right := by
  rw [Clashes, Option.ne_none_iff_exists']
  exact exists_congr fun _ => Clash.of?_eq_some_iff

/-- Two segments clash in the same way the other way round. -/
theorem Clash.of?_comm (left right : Segment) : Clash.of? left right = Clash.of? right left := by
  ext rule
  rw [Clash.of?_eq_some_iff, Clash.of?_eq_some_iff]
  exact ⟨ToldApartBy.symm, ToldApartBy.symm⟩

/-- The walk the other way round ends at the same place. -/
theorem firstClash?_comm (lefts rights : List Segment) :
    firstClash? rights lefts = (firstClash? lefts rights).map fun (rule, a, b) => (rule, b, a) := by
  induction lefts generalizing rights with
  | nil => cases rights <;> rfl
  | cons left lefts ih =>
    cases rights with
    | nil => rfl
    | cons right rights =>
      unfold firstClash?
      rw [Clash.of?_comm right left]
      cases Clash.of? left right with
      | some rule => rfl
      | none => exact ih rights

/-- The walk along two lists of segments ends at the first two that a rule tells apart. -/
theorem firstClash?_eq_some_iff {lefts rights : List Segment} {rule : Clash} {a b : Segment} :
    firstClash? lefts rights = some (rule, a, b) ↔
      ToldApartBy a b rule ∧ ∃ place, FirstAt ToldApart lefts rights place a b := by
  have htold : ∀ place a b, PairAt lefts rights place a b → (Clashes a b ↔ ToldApart a b) :=
    fun _ _ _ _ => Segment.clashes_iff_toldApart
  rcases firstClash?_cases lefts rights with
    ⟨hnone, hnowhere⟩ | ⟨found, place, c, d, hwalk, hclash, hfirst⟩
  · rw [hnone]
    refine iff_of_false nofun ?_
    rintro ⟨_, place, hfirst⟩
    exact hnowhere.congr htold place a b hfirst.pair hfirst.found
  · rw [hwalk, Option.some.injEq, Prod.mk.injEq, Prod.mk.injEq]
    constructor
    · rintro ⟨rfl, rfl, rfl⟩
      exact ⟨Clash.of?_eq_some_iff.mp hclash, place, hfirst.congr htold⟩
    · rintro ⟨hrule, elsewhere, hother⟩
      obtain ⟨rfl, rfl⟩ := (hfirst.congr htold).unique hother
      have hsame : some found = some rule := hclash.symm.trans (Clash.of?_eq_some_iff.mpr hrule)
      exact ⟨Option.some.inj hsame, rfl, rfl⟩

/-- No rule tells a list of segments apart from itself. -/
theorem firstClash?_self (segments : List Segment) : firstClash? segments segments = none := by
  have hmap : firstClash? segments (segments.map id) = none :=
    firstClash?_map fun segment _ => Segment.clash_self segment
  rwa [List.map_id] at hmap

namespace Verdict

/-- The verdict on two paths the other way round. -/
def swap : Verdict → Verdict
  | clash rule left right => clash rule right left
  | verdict => verdict

/-- The other way round a verdict is of the same kind. -/
@[simp] theorem kind_swap (verdict : Verdict) : verdict.swap.kind = verdict.kind := by
  cases verdict with
  | clash rule left right => cases rule <;> rfl
  | _ => rfl

/-- The other way round a verdict is put in the same words. -/
@[simp] theorem message_swap (verdict : Verdict) : verdict.swap.message = verdict.message := by
  cases verdict with
  | clash rule left right => cases rule <;> rfl
  | _ => rfl

/-- The other way round a verdict names the same segments, swapped. -/
@[simp] theorem segments?_swap (verdict : Verdict) :
    verdict.swap.segments? = verdict.segments?.map Prod.swap := by
  cases verdict <;> rfl

/-- The rules that need no canonical form treat both paths alike. -/
theorem bySegments?_comm (left right : String) :
    bySegments? right left = (bySegments? left right).map swap := by
  unfold bySegments?
  by_cases hsame : left = right
  · simp [hsame, swap]
  · by_cases hlength : (Segment.ofPath left).length = (Segment.ofPath right).length
    · simp only [if_neg hsame, if_neg (Ne.symm hsame), hlength, ne_eq, not_true_eq_false, if_false,
        firstClash?_comm (Segment.ofPath left), Option.map_map]
      rfl
    · simp [hsame, Ne.symm hsame, hlength, Ne.symm hlength, swap]

/-- The verdict on two paths the other way round is the verdict the other way round. -/
theorem between_comm (left right : String) (level : Level) :
    between right left level = (between left right level).swap := by
  have hform : canonicalForm right level = canonicalForm left level ↔
      canonicalForm left level = canonicalForm right level := eq_comm
  unfold between
  rw [bySegments?_comm left right]
  cases bySegments? left right with
  | some verdict => rfl
  | none =>
    simp only [Option.map_none, hform]
    split <;> rfl

/-- A verdict that names segments is that of a rule for segments. -/
theorem eq_clash_of_segments? {verdict : Verdict} {a b : Segment}
    (h : verdict.segments? = some (a, b)) : ∃ rule, verdict = .clash rule a b := by
  cases verdict with
  | clash rule left right =>
    cases h
    exact ⟨rule, rfl⟩
  | _ => cases h

/-- A verdict names segments exactly if it is one of the three that segments decide. -/
theorem isSome_segments?_iff (verdict : Verdict) :
    verdict.segments?.isSome = true ↔
      verdict.kind ∈ [.staticVsDynamic, .wildcard, .differentConstraints] := by
  cases verdict with
  | clash rule left right => cases rule <;> simp [segments?, kind]
  | _ => simp [segments?, kind]

/-- The verdict is that of a rule for segments exactly if the paths are equally long, and the
segments are the first two that the rules tell apart, by that rule. -/
theorem between_eq_clash_iff {left right : String} {level : Level} {rule : Clash} {a b : Segment} :
    between left right level = .clash rule a b ↔
      (Segment.ofPath left).length = (Segment.ofPath right).length ∧ ToldApartBy a b rule ∧
        ∃ place, FirstAt ToldApart (Segment.ofPath left) (Segment.ofPath right) place a b := by
  rw [← firstClash?_eq_some_iff]
  by_cases hsame : left = right
  · subst hsame
    simp [between, bySegments?, firstClash?_self]
  · by_cases hlength : (Segment.ofPath left).length = (Segment.ofPath right).length
    · cases hwalk : firstClash? (Segment.ofPath left) (Segment.ofPath right) with
      | some found => simp [between, bySegments?, hsame, hlength, hwalk, Prod.ext_iff]
      | none =>
        simp only [between, bySegments?, hsame, hlength, hwalk, ne_eq, not_true_eq_false, if_false,
          Option.map_none, reduceCtorEq, and_false, iff_false]
        split <;> simp
    · simp [between_of_length_ne level hlength, hlength]

end Verdict

namespace Normalizer

/-- **Comparisons are symmetric.** Asked to compare two paths at a level in one order and in the
other, normalizers of any capacities, after any calls, give verdicts of the same kind in the same
words, with the same segments swapped. A verdict names segments exactly if it is one of the three
that segments decide; these are the first aligned segments, in paths of the same length, that a rule
tells apart, and the kind of the verdict is that of the rule. -/
theorem comparisons_symmetric {capacity otherCapacity : Whole} {start other : Normalizer}
    (hstart : create capacity = .ok start) (hother : create otherCapacity = .ok other)
    (calls otherCalls : List NormalizerCall) (left right : String) {given : Json} {level : Level}
    (hgiven : Level.ofJson given = .ok level) :
    ∃ verdict swapped,
      (start.after calls).compareAt left right given = .ok verdict ∧
      (other.after otherCalls).compareAt right left given = .ok swapped ∧
      swapped.1.kind = verdict.1.kind ∧ swapped.1.message = verdict.1.message ∧
      swapped.1.segments? = verdict.1.segments?.map Prod.swap ∧
      (verdict.1.segments?.isSome = true ↔
        verdict.1.kind ∈ [.staticVsDynamic, .wildcard, .differentConstraints]) ∧
      ∀ rule a b, verdict.1 = .clash rule a b ↔
        (Segment.ofPath left).length = (Segment.ofPath right).length ∧ ToldApartBy a b rule ∧
          ∃ place, FirstAt ToldApart (Segment.ofPath left) (Segment.ofPath right) place a b := by
  have hsound := (sound_of_create hstart).after calls
  have hswapped := (sound_of_create hother).after otherCalls
  refine ⟨_, _, compareAt_of_level hgiven _ _ _, compareAt_of_level hgiven _ _ _, ?_⟩
  rw [hsound.compare_fst, hswapped.compare_fst, Verdict.between_comm left right]
  exact ⟨Verdict.kind_swap _, Verdict.message_swap _, Verdict.segments?_swap _,
    Verdict.isSome_segments?_iff _, fun _ _ _ => Verdict.between_eq_clash_iff⟩

/-- Two parameters are passed over and a literal beside a parameter decides, so the wildcard behind
them is not looked at, whichever path comes first. -/
theorem comparisons_symmetric_mixed :
    create (.number 1) = .ok oneForm ∧ create (.number 2000) = .ok fresh ∧
      Level.ofJson (.int 2) = .ok .strict ∧
      (oneForm.compare "/:a/me/*" "/:b(\\d+)/:id/x" .strict).1 =
        .clash .staticDynamic (Segment.parse "me") (Segment.parse ":id") ∧
      ∃ verdict swapped,
        (oneForm.after [.compare "/:a" "/:b" (.int 1)]).compareAt "/:a/me/*" "/:b(\\d+)/:id/x"
            (.int 2) = .ok verdict ∧
        (fresh.after []).compareAt "/:b(\\d+)/:id/x" "/:a/me/*" (.int 2) = .ok swapped ∧
        swapped.1.kind = verdict.1.kind ∧ swapped.1.message = verdict.1.message ∧
        swapped.1.segments? = verdict.1.segments?.map Prod.swap ∧
        (verdict.1.segments?.isSome = true ↔
          verdict.1.kind ∈ [.staticVsDynamic, .wildcard, .differentConstraints]) ∧
        ∀ rule a b, verdict.1 = .clash rule a b ↔
          (Segment.ofPath "/:a/me/*").length = (Segment.ofPath "/:b(\\d+)/:id/x").length ∧
            ToldApartBy a b rule ∧
            ∃ place, FirstAt ToldApart (Segment.ofPath "/:a/me/*")
              (Segment.ofPath "/:b(\\d+)/:id/x") place a b := by
  have hstart : create (.number 1) = .ok oneForm := rfl
  have hother : create (.number 2000) = .ok fresh := rfl
  have hgiven : Level.ofJson (.int 2) = .ok .strict := rfl
  exact ⟨hstart, hother, hgiven, by decide +kernel,
    comparisons_symmetric hstart hother [.compare "/:a" "/:b" (.int 1)] [] "/:a/me/*"
      "/:b(\\d+)/:id/x" hgiven⟩

end Normalizer

end RouteAudit
