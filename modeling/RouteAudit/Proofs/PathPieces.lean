import RouteAudit.Path

/-!
# The pieces of a path

A path means the list of its pieces, the non-empty texts between slashes. Slashes can be added
and removed at the ends of a path without changing its pieces, and a text put together from
pieces with single slashes between them has just these pieces.
-/

namespace RouteAudit.Path

/-- A text that can be a piece of a path: it is not empty and holds no slash. -/
def IsPiece (chars : List Char) : Prop :=
  chars ≠ [] ∧ '/' ∉ chars

/-- Being a piece can be tested. -/
instance (chars : List Char) : Decidable (IsPiece chars) :=
  inferInstanceAs (Decidable (_ ∧ _))

/-- A slash ends the last fragment before it and begins the first one behind it. -/
theorem fragments_append_slash (before behind : List Char) :
    fragments (before ++ '/' :: behind) =
      ((fragments before).1,
        (fragments before).2 ++ (fragments behind).1 :: (fragments behind).2) := by
  induction before with
  | nil => simp [fragments]
  | cons c before ih =>
    by_cases hc : c = '/'
    · simp [fragments, ih, hc]
    · simp [fragments, ih, hc]

/-- A text without a slash is one fragment. -/
theorem fragments_of_slash_notMem {chars : List Char} (h : '/' ∉ chars) :
    fragments chars = (chars, []) := by
  induction chars with
  | nil => rfl
  | cons c rest ih =>
    obtain ⟨hc, hrest⟩ := not_or.mp (fun hmem => h (List.mem_cons.mpr hmem))
    simp [fragments, ih hrest, Ne.symm hc]

/-- The pieces of a text with a slash are those before it and those behind it. -/
theorem pieces_append_slash (before behind : List Char) :
    pieces (before ++ '/' :: behind) = pieces before ++ pieces behind := by
  simp only [pieces, fragments_append_slash]
  rw [← List.cons_append, List.filter_append]

/-- A slash at the start of a text contributes nothing. -/
@[simp] theorem pieces_slash_cons (chars : List Char) : pieces ('/' :: chars) = pieces chars :=
  pieces_append_slash [] chars

/-- A piece is the only piece of itself. -/
theorem IsPiece.pieces_eq {chars : List Char} (h : IsPiece chars) : pieces chars = [chars] := by
  simp [pieces, fragments_of_slash_notMem h.2, h.1]

/-- Every fragment is free of slashes. -/
theorem slash_notMem_fragments (chars : List Char) :
    '/' ∉ (fragments chars).1 ∧ ∀ fragment ∈ (fragments chars).2, '/' ∉ fragment := by
  induction chars with
  | nil => simp [fragments]
  | cons c rest ih =>
    obtain ⟨hfirst, hmore⟩ := ih
    by_cases hc : c = '/'
    · simpa [fragments, hc] using ⟨hfirst, hmore⟩
    · simpa [fragments, hc, Ne.symm hc] using ⟨hfirst, hmore⟩

/-- What `pieces` finds are pieces. -/
theorem isPiece_of_mem_pieces {chars piece : List Char} (h : piece ∈ pieces chars) :
    IsPiece piece := by
  obtain ⟨hmem, hne⟩ := List.mem_filter.mp h
  refine ⟨by simpa using hne, ?_⟩
  rcases List.mem_cons.mp hmem with rfl | hmem
  · exact (slash_notMem_fragments chars).1
  · exact (slash_notMem_fragments chars).2 piece hmem

/-- Pieces with single slashes between them can be told apart again. -/
theorem pieces_intercalate {parts : List (List Char)} (h : ∀ part ∈ parts, IsPiece part) :
    pieces (['/'].intercalate parts) = parts := by
  induction parts with
  | nil => rfl
  | cons part rest ih =>
    have hpart := (h part List.mem_cons_self).pieces_eq
    have hrest := ih fun other hother => h other (List.mem_cons_of_mem _ hother)
    cases rest with
    | nil => simpa using hpart
    | cons next rest =>
      have hsplit : ['/'].intercalate (part :: next :: rest) =
          part ++ '/' :: ['/'].intercalate (next :: rest) := by simp
      rw [hsplit, pieces_append_slash, hpart, hrest, List.singleton_append]

/-- Removing the slashes at the start of a text changes no piece. -/
@[simp] theorem pieces_dropSlashes (chars : List Char) :
    pieces (dropSlashes chars) = pieces chars := by
  induction chars with
  | nil => rfl
  | cons c rest ih =>
    by_cases hc : c = '/'
    · subst hc
      simpa [dropSlashes] using ih
    · simp [dropSlashes, hc]

/-- A text that holds anything but slashes has a piece. -/
theorem pieces_ne_nil {chars : List Char} {c : Char} (hmem : c ∈ chars) (hc : c ≠ '/') :
    pieces chars ≠ [] := by
  induction chars with
  | nil => simp at hmem
  | cons d rest ih =>
    by_cases hd : d = '/'
    · subst hd
      rw [pieces_slash_cons]
      exact ih (List.mem_of_ne_of_mem hc hmem)
    · simp [pieces, fragments, hd]

/-! ## Paths as strings -/

/-- The pieces of a path are pieces as strings, too. -/
theorem isPiece_of_mem_split {path piece : String} (h : piece ∈ split path) :
    IsPiece piece.toList := by
  obtain ⟨chars, hchars, rfl⟩ := List.mem_map.mp h
  simpa using isPiece_of_mem_pieces hchars

/-- An absolute path put together from pieces splits into these pieces. -/
theorem split_slash_intercalate {parts : List String} (h : ∀ part ∈ parts, IsPiece part.toList) :
    split ("/" ++ "/".intercalate parts) = parts := by
  have hparts : ∀ chars ∈ parts.map String.toList, IsPiece chars := by
    intro chars hchars
    obtain ⟨part, hpart, rfl⟩ := List.mem_map.mp hchars
    exact h part hpart
  have hlist : ("/" ++ "/".intercalate parts).toList =
      '/' :: ['/'].intercalate (parts.map String.toList) := by simp
  simp [split, hlist, pieces_intercalate hparts, Function.comp_def]

end RouteAudit.Path
