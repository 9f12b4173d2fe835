import Mathlib.Data.List.DropRight
import RouteAudit.Conflict
import RouteAudit.Proofs.PathPieces

/-!
# Canonical forms of paths

The segments of a canonical form are the segments of the path, at the segment levels with the
names and the constraints of parameters forgotten. No two aligned segments of the two clash, and
taking the canonical form once more changes nothing. So a path and a canonical form of the same
route are never told apart by their segments.
-/

namespace RouteAudit

/-- The shape that is left of a shape in a canonical form. -/
def Shape.bare : Shape → Shape
  | .literal => .literal
  | .param _ optional => .param "param" optional
  | .constrained _ _ => .param "param" false
  | .compound _ _ => .compound "param" "param"
  | .wildcard _ => .wildcard none

namespace Segment

/-- The texts that stand for parameters and wildcards in canonical forms. -/
def placeholders : List String := [":param", ":param?", ":param-:param", "*"]

/-- The normalized text of a literal is the literal. -/
theorem normalized_parse_of_literal {raw : String} (h : (parse raw).shape = .literal) :
    (parse raw).normalized = raw := by
  rw [normalized, h]
  rfl

/-- Every segment but a literal has a placeholder for its normalized text. -/
theorem normalized_mem_placeholders {segment : Segment} (h : segment.shape ≠ .literal) :
    segment.normalized ∈ placeholders := by
  unfold normalized
  cases hshape : segment.shape with
  | literal => exact absurd hshape h
  | param name optional => cases optional <;> simp [placeholders]
  | constrained name inner => simp [placeholders]
  | compound first second => simp [placeholders]
  | wildcard name => simp [placeholders]

/-- Reading a normalized text gives the shape of the segment without its names and constraints. -/
theorem shape_parse_normalized (raw : String) :
    (parse (parse raw).normalized).shape = (parse raw).shape.bare := by
  cases h : (parse raw).shape with
  | literal => rw [normalized_parse_of_literal h, h, Shape.bare]
  | param name optional => cases optional <;> simp only [normalized, h, Shape.bare] <;> decide
  | constrained name inner => simp only [normalized, h, Shape.bare]; decide
  | compound first second => simp only [normalized, h, Shape.bare]; decide
  | wildcard name => simp only [normalized, h, Shape.bare]; decide

/-- A normalized text is normalized already. -/
theorem normalized_parse_normalized (raw : String) :
    (parse (parse raw).normalized).normalized = (parse raw).normalized := by
  have hplaceholders : ∀ text ∈ placeholders, (parse text).normalized = text := by decide
  by_cases h : (parse raw).shape = .literal
  · rw [normalized_parse_of_literal h, normalized_parse_of_literal h]
  · exact hplaceholders _ (normalized_mem_placeholders h)

/-- The normalized text of a piece is a piece. -/
theorem isPiece_normalized {raw : String} (hraw : Path.IsPiece raw.toList) :
    Path.IsPiece (parse raw).normalized.toList := by
  have hplaceholders : ∀ text ∈ placeholders, Path.IsPiece text.toList := by decide
  by_cases h : (parse raw).shape = .literal
  · rwa [normalized_parse_of_literal h]
  · exact hplaceholders _ (normalized_mem_placeholders h)

/-- The kind that is left of a kind in a canonical form: constraints are forgotten. -/
def bareKind : SegmentKind → SegmentKind
  | .constrainedParam => .param
  | kind => kind

/-- A normalized text is of the same kind as the segment, but for its constraint. -/
theorem kind_parse_normalized (raw : String) :
    (parse (parse raw).normalized).kind = bareKind (parse raw).kind := by
  simp only [kind, shape_parse_normalized]
  cases (parse raw).shape with
  | param name optional => cases optional <;> rfl
  | _ => rfl

/-- Forgetting constraints, a segment stands for itself or not as before. -/
theorem isStatic_parse_normalized (raw : String) :
    (parse (parse raw).normalized).isStatic = (parse raw).isStatic := by
  unfold isStatic
  rw [kind_parse_normalized]
  cases (parse raw).kind <;> rfl

/-- Forgetting constraints, a segment is a wildcard or not as before. -/
theorem isWildcard_parse_normalized (raw : String) :
    (parse (parse raw).normalized).isWildcard = (parse raw).isWildcard := by
  unfold isWildcard
  rw [kind_parse_normalized]
  cases (parse raw).kind <;> rfl

/-- A normalized text has no constraint. -/
theorem constraint?_parse_normalized (raw : String) :
    (parse (parse raw).normalized).constraint? = none := by
  unfold constraint?
  rw [shape_parse_normalized]
  cases (parse raw).shape <;> rfl

/-- A segment does not clash with what its normalized text reads as. -/
theorem clash_parse_normalized (raw : String) :
    Clash.of? (parse raw) (parse (parse raw).normalized) = none := by
  simp [Clash.of?, isStatic_parse_normalized, isWildcard_parse_normalized,
    constraint?_parse_normalized]

/-- A segment does not clash with itself. -/
theorem clash_self (segment : Segment) : Clash.of? segment segment = none := by
  cases h : segment.constraint? <;> simp [Clash.of?, h]

/-- The segments of a path are read from pieces. -/
theorem exists_piece_of_mem_ofPath {path : String} {segment : Segment} (h : segment ∈ ofPath path) :
    ∃ raw, Path.IsPiece raw.toList ∧ parse raw = segment := by
  obtain ⟨raw, hraw, hsegment⟩ := List.mem_map.mp h
  exact ⟨raw, Path.isPiece_of_mem_split hraw, hsegment⟩

end Segment

/-! ## Paths -/

/-- What a segment of a path reads as in the canonical form at a level. -/
def Level.reread : Level → Segment → Segment
  | .raw, segment => segment
  | .relaxed, segment => Segment.parse segment.normalized
  | .strict, segment => Segment.parse segment.normalized

/-- Forms at the raw level keep the segments of a path. -/
theorem ofPath_rawForm (path : String) : Segment.ofPath (rawForm path) = Segment.ofPath path := by
  simp [Segment.ofPath, Path.split, rawForm]

/-- The segments of a form at the other levels are read from the normalized texts of a path. -/
theorem ofPath_segmentForm (path : String) :
    Segment.ofPath (segmentForm path) =
      (Segment.ofPath path).map fun segment => Segment.parse segment.normalized := by
  have hparts : ∀ part ∈ (Segment.ofPath path).map Segment.normalized,
      Path.IsPiece part.toList := by
    intro part hpart
    obtain ⟨segment, hsegment, rfl⟩ := List.mem_map.mp hpart
    obtain ⟨raw, hraw, rfl⟩ := Segment.exists_piece_of_mem_ofPath hsegment
    exact Segment.isPiece_normalized hraw
  rw [segmentForm, Segment.ofPath, Path.split_slash_intercalate hparts, List.map_map]
  rfl

/-- The segments of a canonical form, one for each segment of the path. -/
theorem ofPath_canonicalForm (path : String) (level : Level) :
    Segment.ofPath (canonicalForm path level) = (Segment.ofPath path).map level.reread := by
  by_cases hpath : path = ""
  · subst hpath
    cases level <;> rfl
  · cases level with
    | raw =>
      have hreread : Level.raw.reread = id := rfl
      simp [canonicalForm, hpath, hreread, ofPath_rawForm]
    | relaxed => simp [canonicalForm, hpath, Level.reread, ofPath_segmentForm]
    | strict => simp [canonicalForm, hpath, Level.reread, ofPath_segmentForm]

/-- A canonical form is an absolute path. -/
theorem exists_toList_canonicalForm (path : String) (level : Level) :
    ∃ rest, (canonicalForm path level).toList = '/' :: rest := by
  unfold canonicalForm
  split
  · exact ⟨[], rfl⟩
  · cases level <;> simp [rawForm, segmentForm]

/-- A canonical form is not empty. -/
theorem canonicalForm_ne_empty (path : String) (level : Level) : canonicalForm path level ≠ "" := by
  obtain ⟨rest, hrest⟩ := exists_toList_canonicalForm path level
  intro h
  rw [h] at hrest
  exact absurd hrest (by simp)

/-- The form at the raw level of such a form is the form. -/
theorem rawForm_rawForm (path : String) : rawForm (rawForm path) = rawForm path := by
  simp [rawForm, Path.dropSlashes, List.dropWhile_idempotent]

/-- The segments of a path decide its form at the other levels. -/
theorem segmentForm_segmentForm (path : String) :
    segmentForm (segmentForm path) = segmentForm path := by
  have hnormalized : (Segment.ofPath (segmentForm path)).map Segment.normalized =
      (Segment.ofPath path).map Segment.normalized := by
    rw [ofPath_segmentForm, List.map_map]
    apply List.map_congr_left
    intro segment hsegment
    obtain ⟨raw, _, rfl⟩ := Segment.exists_piece_of_mem_ofPath hsegment
    exact Segment.normalized_parse_normalized raw
  rw [segmentForm, hnormalized, ← segmentForm]

/-- The canonical form of a canonical form is the form itself. -/
theorem canonicalForm_canonicalForm (path : String) (level : Level) :
    canonicalForm (canonicalForm path level) level = canonicalForm path level := by
  by_cases hpath : path = ""
  · subst hpath
    cases level <;> rfl
  · have hne := canonicalForm_ne_empty path level
    cases level with
    | raw =>
      simp only [canonicalForm, if_neg hpath] at hne ⊢
      rw [if_neg hne, rawForm_rawForm]
    | relaxed =>
      simp only [canonicalForm, if_neg hpath] at hne ⊢
      rw [if_neg hne, segmentForm_segmentForm]
    | strict =>
      simp only [canonicalForm, if_neg hpath] at hne ⊢
      rw [if_neg hne, segmentForm_segmentForm]

/-! ## Verdicts on paths and their forms -/

/-- Segments that do not clash with what they are mapped to do not clash in their order. -/
theorem firstClash?_map {segments : List Segment} {f : Segment → Segment}
    (h : ∀ segment ∈ segments, Clash.of? segment (f segment) = none) :
    firstClash? segments (segments.map f) = none := by
  induction segments with
  | nil => rfl
  | cons segment rest ih =>
    have hrest := ih fun other hother => h other (List.mem_cons_of_mem _ hother)
    simp [firstClash?, h segment List.mem_cons_self, hrest]

/-- The verdict on two paths with canonical forms computed afresh. -/
def Verdict.between (left right : String) (level : Level) : Verdict :=
  match Verdict.bySegments? left right with
  | some verdict => verdict
  | none =>
      if level ≠ .raw ∧ canonicalForm left level = canonicalForm right level then .renamed
      else .unrelated

/-- No segment tells a path from its canonical form. -/
theorem Verdict.bySegments?_canonicalForm {path : String} {level : Level}
    (h : path ≠ canonicalForm path level) :
    Verdict.bySegments? path (canonicalForm path level) = none := by
  have hclash : ∀ segment ∈ Segment.ofPath path,
      Clash.of? segment (level.reread segment) = none := by
    intro segment hsegment
    obtain ⟨raw, _, rfl⟩ := Segment.exists_piece_of_mem_ofPath hsegment
    cases level with
    | raw => exact Segment.clash_self _
    | relaxed => exact Segment.clash_parse_normalized raw
    | strict => exact Segment.clash_parse_normalized raw
  simp [Verdict.bySegments?, h, ofPath_canonicalForm, firstClash?_map hclash]

/-- A path and its canonical form are written alike or differ in the names of parameters only; at
the raw level nothing is said of forms. -/
theorem Verdict.between_canonicalForm (path : String) (level : Level) :
    Verdict.between path (canonicalForm path level) level =
      if path = canonicalForm path level then .identical
      else if level = .raw then .unrelated else .renamed := by
  by_cases h : path = canonicalForm path level
  · simp [Verdict.between, Verdict.bySegments?, ← h]
  · rw [Verdict.between, Verdict.bySegments?_canonicalForm h, if_neg h]
    cases level <;> simp [canonicalForm_canonicalForm]

/-- Paths with different numbers of segments do not meet. -/
theorem Verdict.between_of_length_ne {left right : String} (level : Level)
    (h : (Segment.ofPath left).length ≠ (Segment.ofPath right).length) :
    Verdict.between left right level = .differentLengths := by
  have hne : left ≠ right := by
    rintro rfl
    exact h rfl
  simp [Verdict.between, Verdict.bySegments?, hne, h]

end RouteAudit
