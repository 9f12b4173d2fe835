import Mathlib.Data.List.Forall2
import RouteAudit.Proofs.ComposedForms
import RouteAudit.Proofs.NormalizerHistories

/-!
# Faithful forms

At the segment levels a canonical form says of every segment of the path, in its place, what kind of
segment it is, and of literals also which one. Only the names and constraints of parameters are
lost. So two paths share their form exactly if their segments have the same normalized texts, one
by one; and no literal is ever taken for anything else, nor a wildcard.
-/

namespace RouteAudit

namespace Segment

/-- What a segment has become in a canonical form. -/
structure Rereads (segment reread : Segment) : Prop where
  /-- It is what the normalized text of the segment reads as. -/
  parsed : reread = parse segment.normalized
  normalized : reread.normalized = segment.normalized
  constraint : reread.constraint? = none
  /-- Only a constraint is missed from its kind. -/
  kind : reread.kind = bareKind segment.kind

/-- Two segments have the same normalized text. -/
def SameText (segment other : Segment) : Prop :=
  segment.normalized = other.normalized

/-- Two segments are literals, wildcards or parameters both. -/
structure SameNature (segment other : Segment) : Prop where
  static : segment.isStatic = other.isStatic
  wildcard : segment.isWildcard = other.isWildcard

/-- Reading the normalized text of a segment leaves of it what a canonical form has to keep. -/
theorem rereads_parse (raw : String) : Rereads (parse raw) (parse (parse raw).normalized) where
  parsed := rfl
  normalized := normalized_parse_normalized raw
  constraint := constraint?_parse_normalized raw
  kind := kind_parse_normalized raw

/-- The normalized text of a segment tells its nature. -/
theorem SameText.sameNature {raw otherRaw : String} (h : SameText (parse raw) (parse otherRaw)) :
    SameNature (parse raw) (parse otherRaw) := by
  have htext : (parse raw).normalized = (parse otherRaw).normalized := h
  constructor
  case static => rw [← isStatic_parse_normalized raw, htext, isStatic_parse_normalized otherRaw]
  case wildcard =>
    rw [← isWildcard_parse_normalized raw, htext, isWildcard_parse_normalized otherRaw]

/-- Paths with the same normalized texts have segments of the same nature. -/
theorem forall₂_sameNature {path other : String}
    (h : List.Forall₂ SameText (ofPath path) (ofPath other)) :
    List.Forall₂ SameNature (ofPath path) (ofPath other) := by
  unfold ofPath at h ⊢
  rw [List.forall₂_map_left_iff, List.forall₂_map_right_iff] at h ⊢
  exact h.imp fun _ _ htext => htext.sameNature

end Segment

open Segment (Rereads SameText SameNature)

/-- At the segment levels the segments of a form are what the segments of the path have become. -/
theorem forall₂_rereads {level : Level} (hlevel : level ≠ .raw) (path : String) :
    List.Forall₂ Rereads (Segment.ofPath path) (Segment.ofPath (canonicalForm path level)) := by
  have hreread : level.reread = fun segment => Segment.parse segment.normalized := by
    cases level with
    | raw => exact absurd rfl hlevel
    | relaxed => rfl
    | strict => rfl
  rw [ofPath_canonicalForm, hreread, List.forall₂_map_right_iff, List.forall₂_same]
  intro segment hsegment
  obtain ⟨raw, _, rfl⟩ := Segment.exists_piece_of_mem_ofPath hsegment
  exact Segment.rereads_parse raw

/-- At the segment levels paths share their form exactly if their segments have the same normalized
texts, one by one. -/
theorem canonicalForm_eq_iff_sameText {level : Level} (hlevel : level ≠ .raw)
    (path other : String) :
    canonicalForm path level = canonicalForm other level ↔
      List.Forall₂ SameText (Segment.ofPath path) (Segment.ofPath other) := by
  rw [canonicalForm_eq_iff hlevel, Segment.normalizedTexts, Segment.normalizedTexts,
    ← List.forall₂_eq_eq_eq, List.forall₂_map_left_iff, List.forall₂_map_right_iff]
  rfl

namespace Normalizer

/-- **Canonical forms are faithful.** At the segment levels a normalizer of any capacity, after any
calls, gives forms whose segments are those of the paths less the names and constraints of
parameters. Two paths have the same form exactly if their segments have the same normalized texts,
one by one, and then these segments are of the same nature. -/
theorem canonical_forms_faithful {capacity : Whole} {start : Normalizer}
    (hstart : create capacity = .ok start) (calls otherCalls : List NormalizerCall)
    (path other : String) {given : Json} {level : Level} (hgiven : Level.ofJson given = .ok level)
    (hlevel : level ≠ .raw) (keep otherKeep : Bool) :
    ∃ form otherForm, (start.after calls).normalizeAt path given keep = .ok form ∧
      (start.after otherCalls).normalizeAt other given otherKeep = .ok otherForm ∧
      List.Forall₂ Rereads (Segment.ofPath path) (Segment.ofPath form.1) ∧
      (form.1 = otherForm.1 ↔
        List.Forall₂ SameText (Segment.ofPath path) (Segment.ofPath other)) ∧
      (form.1 = otherForm.1 →
        List.Forall₂ SameNature (Segment.ofPath path) (Segment.ofPath other)) := by
  have hsound := (sound_of_create hstart).after calls
  have hother := (sound_of_create hstart).after otherCalls
  have hforms := canonicalForm_eq_iff_sameText hlevel path other
  refine ⟨_, _, normalizeAt_of_level hgiven _ _ _, normalizeAt_of_level hgiven _ _ _, ?_⟩
  rw [hsound.normalize_fst, hother.normalize_fst]
  exact ⟨forall₂_rereads hlevel path, hforms, fun heq => Segment.forall₂_sameNature (hforms.mp heq)⟩

/-- Parameters with and without a constraint share their form; a literal in the place of one would
not. -/
theorem canonical_forms_faithful_constrained :
    create (.number 1) = .ok oneForm ∧ Level.ofJson (.int 2) = .ok .strict ∧
      Level.strict ≠ .raw ∧
      (oneForm.normalize "/a/:id(\\d+)?/:rest*" .strict true).1 = "/a/:param/*" ∧
      (oneForm.normalize "a//:name/**" .strict false).1 = "/a/:param/*" ∧
      (oneForm.normalize "a/name/**" .strict false).1 = "/a/name/*" ∧
      ∃ form otherForm,
        (oneForm.after []).normalizeAt "/a/:id(\\d+)?/:rest*" (.int 2) true = .ok form ∧
        (oneForm.after [.clear]).normalizeAt "a//:name/**" (.int 2) false = .ok otherForm ∧
        List.Forall₂ Rereads (Segment.ofPath "/a/:id(\\d+)?/:rest*") (Segment.ofPath form.1) ∧
        (form.1 = otherForm.1 ↔
          List.Forall₂ SameText (Segment.ofPath "/a/:id(\\d+)?/:rest*")
            (Segment.ofPath "a//:name/**")) ∧
        (form.1 = otherForm.1 →
          List.Forall₂ SameNature (Segment.ofPath "/a/:id(\\d+)?/:rest*")
            (Segment.ofPath "a//:name/**")) := by
  have hstart : create (.number 1) = .ok oneForm := rfl
  have hgiven : Level.ofJson (.int 2) = .ok .strict := rfl
  have hlevel : Level.strict ≠ .raw := nofun
  exact ⟨hstart, hgiven, hlevel, by decide +kernel, by decide +kernel, by decide +kernel,
    canonical_forms_faithful hstart [] [.clear] "/a/:id(\\d+)?/:rest*" "a//:name/**" hgiven hlevel
      true false⟩

end Normalizer

end RouteAudit
