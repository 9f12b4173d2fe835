import Mathlib.Data.List.DropRight
import RouteAudit.Proofs.PathPieces

/-!
# Joined paths

Joining paths puts the lists of their pieces together: a joined path is all the pieces of its parts,
in order, with single slashes between them. How many slashes a part has, and where, makes no
difference, and neither does a part without pieces.
-/

namespace RouteAudit.Path

/-! ## Outer slashes -/

/-- A text with no slash at its start and none at its end. -/
structure Trimmed (chars : List Char) : Prop where
  start : chars.head? ≠ some '/'
  stop : chars.getLast? ≠ some '/'

/-- Removing outer slashes is removing those at the start, and then those at the end. -/
theorem trimSlashes_eq_rdropWhile (chars : List Char) :
    trimSlashes chars = (dropSlashes chars).rdropWhile (· == '/') := rfl

/-- A text without the slashes at its start begins with none. -/
theorem head?_dropSlashes (chars : List Char) : (dropSlashes chars).head? ≠ some '/' := by
  intro hhead
  have hdropped := List.head?_dropWhile_not (· == '/') chars
  unfold dropSlashes at hhead
  rw [hhead] at hdropped
  simp at hdropped

/-- Without its outer slashes a text is trimmed. -/
theorem trimmed_trimSlashes (chars : List Char) : Trimmed (trimSlashes chars) where
  start := by
    intro hhead
    obtain ⟨behind, hbehind⟩ := List.rdropWhile_prefix (· == '/') (dropSlashes chars)
    rw [trimSlashes_eq_rdropWhile] at hhead
    have hfirst : (dropSlashes chars).head? = some '/' := by
      rw [← hbehind, List.head?_append, hhead]
      rfl
    exact head?_dropSlashes chars hfirst
  stop := by
    unfold trimSlashes
    rw [List.getLast?_reverse]
    exact head?_dropSlashes _

/-- A slash at the end of a text contributes nothing. -/
theorem pieces_append_final_slash (chars : List Char) : pieces (chars ++ ['/']) = pieces chars := by
  have hsplit := pieces_append_slash chars []
  have hnone : pieces [] = [] := rfl
  rwa [hnone, List.append_nil] at hsplit

/-- Removing outer slashes changes no piece. -/
@[simp] theorem pieces_trimSlashes (chars : List Char) :
    pieces (trimSlashes chars) = pieces chars := by
  rw [trimSlashes_eq_rdropWhile, ← pieces_dropSlashes chars]
  induction dropSlashes chars using List.reverseRecOn with
  | nil => rfl
  | append_singleton rest c ih =>
    by_cases hc : c = '/'
    · rw [List.rdropWhile_concat_pos _ _ _ (by simpa using hc), hc, pieces_append_final_slash, ih]
    · rw [List.rdropWhile_concat_neg _ _ _ (by simpa using hc)]

/-! ## Runs of slashes -/

/-- A character in front of a text that begins with no slash makes the first piece longer. -/
theorem exists_pieces_cons_cons {c d : Char} (hc : c ≠ '/') (hd : d ≠ '/') (rest : List Char) :
    ∃ piece more, pieces (d :: rest) = piece :: more ∧
      pieces (c :: d :: rest) = (c :: piece) :: more := by
  refine ⟨d :: (fragments rest).1, (fragments rest).2.filter (!·.isEmpty), ?_, ?_⟩
  · simp [pieces, fragments, hd]
  · simp [pieces, fragments, hc, hd]

/-- A text that ends, and not with a slash, has a piece. -/
theorem pieces_ne_nil_of_getLast? {chars : List Char} (hne : chars ≠ [])
    (hstop : chars.getLast? ≠ some '/') : pieces chars ≠ [] := by
  have hlast : chars.getLast hne ≠ '/' := by
    intro hslash
    exact hstop (by rw [List.getLast?_eq_some_getLast hne, hslash])
  exact pieces_ne_nil (List.getLast_mem hne) hlast

/-- A squeezed text that ends with no slash is its pieces with single slashes between them, behind
one more slash if the text begins with one. -/
theorem squeeze_eq_intercalate_pieces {chars : List Char} (hstop : chars.getLast? ≠ some '/') :
    squeeze chars =
      (if chars.head? = some '/' then ['/'] else []) ++ ['/'].intercalate (pieces chars) := by
  induction chars using squeeze.induct with
  | case1 => rfl
  | case2 c =>
    have hc : c ≠ '/' := by simpa using hstop
    simp [squeeze, pieces, fragments, hc]
  | case3 c d rest hslashes ih =>
    obtain ⟨rfl, rfl⟩ := hslashes
    have hrest := ih (by simpa using hstop)
    simpa [squeeze] using hrest
  | case4 c d rest hslashes ih =>
    have hrest := ih (by simpa using hstop)
    rw [squeeze, if_neg hslashes, hrest]
    by_cases hc : c = '/'
    · subst hc
      have hd : d ≠ '/' := fun hd => hslashes ⟨rfl, hd⟩
      simp [hd]
    · by_cases hd : d = '/'
      · subst hd
        -- The text does not end with this slash, so a further piece follows.
        have hne : rest ≠ [] := by
          rintro rfl
          exact hstop rfl
        have hmore : pieces rest ≠ [] :=
          pieces_ne_nil_of_getLast? hne (by simpa [List.getLast?_cons_of_ne_nil hne] using hstop)
        have hsplit : pieces (c :: '/' :: rest) = [c] :: pieces rest := by
          have hpiece : IsPiece [c] := ⟨by simp, by simpa using Ne.symm hc⟩
          rw [← List.singleton_append, pieces_append_slash, hpiece.pieces_eq]
          rfl
        obtain ⟨piece, more, hpieces⟩ := List.exists_cons_of_ne_nil hmore
        simp [hc, hsplit, hpieces]
      · obtain ⟨piece, more, hshort, hlong⟩ := exists_pieces_cons_cons hc hd rest
        simp [hc, hd, hshort, hlong]

/-- Squeezing a trimmed text leaves its pieces with single slashes between them. -/
theorem Trimmed.squeeze_eq {chars : List Char} (h : Trimmed chars) :
    squeeze chars = ['/'].intercalate (pieces chars) := by
  rw [squeeze_eq_intercalate_pieces h.stop, if_neg h.start, List.nil_append]

/-! ## Joining -/

/-- The pieces of texts with slashes between them are the pieces of the texts. -/
theorem pieces_intercalate_eq_flatMap (parts : List (List Char)) :
    pieces (['/'].intercalate parts) = parts.flatMap pieces := by
  induction parts with
  | nil => rfl
  | cons part rest ih =>
    cases rest with
    | nil => simp
    | cons next rest =>
      have hsplit : ['/'].intercalate (part :: next :: rest) =
          part ++ '/' :: ['/'].intercalate (next :: rest) := by simp
      rw [hsplit, pieces_append_slash, ih, ← List.flatMap_cons]

/-- Empty texts have no pieces, so they may be left out. -/
theorem flatMap_pieces_filter (parts : List (List Char)) :
    (parts.filter (!·.isEmpty)).flatMap pieces = parts.flatMap pieces := by
  induction parts with
  | nil => rfl
  | cons part rest ih =>
    cases part with
    | nil => exact ih
    | cons c behind => simpa using ih

/-- Trimmed texts that are not empty, with slashes between them, make a trimmed text, which is
empty only if there are none. -/
theorem trimmed_intercalate {parts : List (List Char)}
    (h : ∀ part ∈ parts, part ≠ [] ∧ Trimmed part) :
    Trimmed (['/'].intercalate parts) ∧ (['/'].intercalate parts = [] → parts = []) := by
  induction parts with
  | nil => exact ⟨⟨by simp, by simp⟩, fun _ => rfl⟩
  | cons part rest ih =>
    obtain ⟨hne, hpart⟩ := h part List.mem_cons_self
    cases rest with
    | nil => simpa [hne] using hpart
    | cons next rest =>
      obtain ⟨hrest, hempty⟩ := ih fun other hother => h other (List.mem_cons_of_mem _ hother)
      have hmore : ['/'].intercalate (next :: rest) ≠ [] :=
        fun hnone => List.cons_ne_nil _ _ (hempty hnone)
      have hsplit : ['/'].intercalate (part :: next :: rest) =
          part ++ '/' :: ['/'].intercalate (next :: rest) := by simp
      rw [hsplit]
      refine ⟨⟨?_, ?_⟩, by simp⟩
      · rw [List.head?_append_of_ne_nil _ hne]
        exact hpart.start
      · rw [List.getLast?_append_of_ne_nil _ (List.cons_ne_nil _ _),
          List.getLast?_cons_of_ne_nil hmore]
        exact hrest.stop

/-- A joined path is the pieces of its parts with single slashes between them, behind one slash. -/
theorem join_eq_intercalate_split (parts : List String) :
    join parts = "/" ++ "/".intercalate (parts.flatMap split) := by
  have htrimmed : ∀ part ∈ (parts.map fun part => trimSlashes part.toList).filter (!·.isEmpty),
      part ≠ [] ∧ Trimmed part := by
    intro part hpart
    obtain ⟨hmem, hne⟩ := List.mem_filter.mp hpart
    obtain ⟨text, _, rfl⟩ := List.mem_map.mp hmem
    exact ⟨by simpa using hne, trimmed_trimSlashes _⟩
  apply String.toList_inj.mp
  rw [join, (trimmed_intercalate htrimmed).1.squeeze_eq, pieces_intercalate_eq_flatMap,
    flatMap_pieces_filter]
  simp [split, List.flatMap_map, List.map_flatMap, Function.comp_def]

/-- A joined path splits into the pieces of its parts. -/
@[simp] theorem split_join (parts : List String) : split (join parts) = parts.flatMap split := by
  rw [join_eq_intercalate_split, split_slash_intercalate]
  intro piece hpiece
  obtain ⟨part, _, hmem⟩ := List.mem_flatMap.mp hpiece
  exact isPiece_of_mem_split hmem

end RouteAudit.Path
