import Mathlib.Data.List.Chain
import RouteAudit.Proofs.JoinedPaths

/-!
# Nested joins

A joined path is a slash and behind it the pieces of its parts, with single slashes between them. So
it holds no run of slashes, and none at its end unless it is nothing but a slash. A part that has
been joined itself may be replaced by what it was joined from: it makes no difference in which order
mounts, routes and the path in front of all routes are put together.
-/

namespace RouteAudit.Path

/-! ## Runs of slashes -/

/-- No two slashes stand side by side. -/
def SingleSlashes (chars : List Char) : Prop :=
  chars.IsChain fun c d => ¬(c = '/' ∧ d = '/')

/-- A text whose slashes are single ones does not hold two in a row. -/
theorem SingleSlashes.no_run {chars : List Char} (h : SingleSlashes chars) :
    ¬['/', '/'] <:+: chars := by
  rintro ⟨before, behind, rfl⟩
  have hpair := (List.IsChain.left_of_append h).right_of_append
  simp at hpair

/-- A piece behind a slash adds no second one. -/
theorem IsPiece.singleSlashes {piece : List Char} (h : IsPiece piece) :
    SingleSlashes ('/' :: piece) := by
  obtain ⟨-, hslash⟩ := h
  unfold SingleSlashes
  rw [List.isChain_cons]
  constructor
  · rintro d hd ⟨-, rfl⟩
    exact hslash (List.mem_of_mem_head? hd)
  · refine List.Pairwise.isChain (List.pairwise_of_forall_mem_list ?_)
    rintro c hc - - ⟨rfl, -⟩
    exact hslash hc

/-- A piece neither begins nor ends with a slash. -/
theorem IsPiece.trimmed {piece : List Char} (h : IsPiece piece) : Trimmed piece where
  start := fun hhead => h.2 (List.mem_of_mem_head? hhead)
  stop := fun hlast => h.2 (List.mem_of_getLast? hlast)

/-- Pieces with single slashes between them and one in front hold no two slashes in a row. -/
theorem singleSlashes_intercalate {parts : List (List Char)} (h : ∀ part ∈ parts, IsPiece part) :
    SingleSlashes ('/' :: ['/'].intercalate parts) := by
  induction parts with
  | nil => exact List.isChain_singleton _
  | cons part rest ih =>
    have hpart := h part List.mem_cons_self
    have hrest := ih fun other hother => h other (List.mem_cons_of_mem _ hother)
    cases rest with
    | nil => simpa using hpart.singleSlashes
    | cons next rest =>
      have hsplit : '/' :: ['/'].intercalate (part :: next :: rest) =
          ('/' :: part) ++ '/' :: ['/'].intercalate (next :: rest) := by simp
      rw [hsplit]
      refine List.isChain_append.mpr ⟨hpart.singleSlashes, hrest, ?_⟩
      -- The slash behind a piece follows the last character of the piece.
      rintro c hc - - ⟨rfl, -⟩
      rw [List.getLast?_cons_of_ne_nil hpart.1] at hc
      exact hpart.trimmed.stop hc

/-! ## Joined paths -/

/-- The pieces of the parts of a joined path, as lists of characters. -/
theorem exists_toList_join (parts : List String) :
    ∃ pieces : List (List Char), (∀ piece ∈ pieces, IsPiece piece) ∧
      (join parts).toList = '/' :: ['/'].intercalate pieces := by
  refine ⟨(parts.flatMap split).map String.toList, ?_, ?_⟩
  · intro piece hpiece
    obtain ⟨text, htext, rfl⟩ := List.mem_map.mp hpiece
    obtain ⟨part, -, hmem⟩ := List.mem_flatMap.mp htext
    exact isPiece_of_mem_split hmem
  · simp [join_eq_intercalate_split]

/-- A joined path ends with a slash exactly if it is one. -/
theorem getLast?_join_eq_slash_iff (parts : List String) :
    (join parts).toList.getLast? = some '/' ↔ join parts = "/" := by
  obtain ⟨pieces, hpieces, hjoin⟩ := exists_toList_join parts
  have htrimmed := trimmed_intercalate fun piece hpiece =>
    ⟨(hpieces piece hpiece).1, (hpieces piece hpiece).trimmed⟩
  rw [← String.toList_inj, hjoin]
  cases hbehind : ['/'].intercalate pieces with
  | nil => simp
  | cons c rest =>
    have hstop := htrimmed.1.stop
    rw [hbehind] at hstop
    simpa [List.getLast?_cons_of_ne_nil] using hstop

/-- **Joining concatenates.** A joined path is a slash and the pieces of its parts with single
slashes between them, and splits into these pieces. It holds no two slashes in a row, and ends with
one only if it is one. A part that is a joined path itself may be replaced by its parts. -/
theorem join_concatenates (parts : List String) :
    join parts = "/" ++ "/".intercalate (parts.flatMap split) ∧
      split (join parts) = parts.flatMap split ∧
      ¬['/', '/'] <:+: (join parts).toList ∧
      ((join parts).toList.getLast? = some '/' ↔ join parts = "/") ∧
      ∀ before behind : List String,
        join (before ++ join parts :: behind) = join (before ++ parts ++ behind) := by
  refine ⟨join_eq_intercalate_split parts, split_join parts, ?_, getLast?_join_eq_slash_iff parts,
    ?_⟩
  · obtain ⟨pieces, hpieces, hjoin⟩ := exists_toList_join parts
    rw [hjoin]
    exact (singleSlashes_intercalate hpieces).no_run
  · intro before behind
    have hpieces : (before ++ join parts :: behind).flatMap split =
        (before ++ parts ++ behind).flatMap split := by simp
    rw [join_eq_intercalate_split (before ++ join parts :: behind), hpieces,
      ← join_eq_intercalate_split]

example : join ["/api//", join ["", "v1/", "/"], "//users"] = "/api/v1/users" := by decide +kernel

end RouteAudit.Path
