import RouteAudit.Proofs.JoinedPaths
import RouteAudit.Proofs.PlainAudit

/-!
# Forms of composed paths

The path at which a route is reached is composed of the path in front of all routes, of the mounts
of its router and of its own path. Its segments are those of these parts, one part after the other,
so at the segment levels its canonical form is composed of the normalized texts of the parts. At the
raw level a canonical form tells paths apart that have the same segments, unless they are joined.
-/

namespace RouteAudit

namespace Segment

/-- The segments of a joined path are those of its parts. -/
theorem ofPath_join (parts : List String) : ofPath (Path.join parts) = parts.flatMap ofPath := by
  rw [ofPath, Path.split_join, List.map_flatMap]
  rfl

/-- The segments of texts with slashes between them are those of the texts. -/
theorem ofPath_intercalate (parts : List String) :
    ofPath ("/".intercalate parts) = parts.flatMap ofPath := by
  have hsplit : Path.split ("/".intercalate parts) = parts.flatMap Path.split := by
    have hlist : ("/".intercalate parts).toList = ['/'].intercalate (parts.map String.toList) := by
      simp
    rw [Path.split, hlist, Path.pieces_intercalate_eq_flatMap, List.flatMap_map, List.map_flatMap]
    rfl
  rw [ofPath, hsplit, List.map_flatMap]
  rfl

/-- The texts of the segments of a path once the names and constraints of parameters are forgotten.
-/
def normalizedTexts (path : String) : List String :=
  (ofPath path).map normalized

/-- Normalized texts are pieces. -/
theorem isPiece_of_mem_normalizedTexts {path text : String} (h : text ∈ normalizedTexts path) :
    Path.IsPiece text.toList := by
  obtain ⟨segment, hsegment, rfl⟩ := List.mem_map.mp h
  obtain ⟨raw, hraw, rfl⟩ := exists_piece_of_mem_ofPath hsegment
  exact isPiece_normalized hraw

end Segment

/-! ## The segment levels -/

/-- At the segment levels a canonical form is the normalized texts with slashes between them. -/
theorem canonicalForm_of_ne_raw {level : Level} (hlevel : level ≠ .raw) (path : String) :
    canonicalForm path level = "/" ++ "/".intercalate (Segment.normalizedTexts path) := by
  by_cases hpath : path = ""
  · subst hpath
    rfl
  · unfold canonicalForm
    rw [if_neg hpath]
    cases level with
    | raw => exact absurd rfl hlevel
    | relaxed => rfl
    | strict => rfl

/-- At the segment levels paths have the same form exactly if they have the same normalized texts.
-/
theorem canonicalForm_eq_iff {level : Level} (hlevel : level ≠ .raw) (path other : String) :
    canonicalForm path level = canonicalForm other level ↔
      Segment.normalizedTexts path = Segment.normalizedTexts other := by
  rw [canonicalForm_of_ne_raw hlevel, canonicalForm_of_ne_raw hlevel]
  constructor
  · intro hforms
    have hpieces := congrArg Path.split hforms
    rwa [Path.split_slash_intercalate fun _ => Segment.isPiece_of_mem_normalizedTexts,
      Path.split_slash_intercalate fun _ => Segment.isPiece_of_mem_normalizedTexts] at hpieces
  · intro htexts
    rw [htexts]

/-! ## The raw level -/

/-- At the raw level a canonical form is the path behind exactly one slash. -/
theorem canonicalForm_raw (path : String) : canonicalForm path .raw = rawForm path := by
  by_cases hpath : path = ""
  · subst hpath
    rfl
  · exact if_neg hpath

/-- Paths with the same form at the raw level have the same pieces. -/
theorem split_eq_of_rawForm_eq {path other : String} (h : rawForm path = rawForm other) :
    Path.split path = Path.split other := by
  have hpieces := congrArg Path.split h
  simpa [Path.split, rawForm] using hpieces

/-- Joined paths have the same form at the raw level exactly if their parts have the same pieces. -/
theorem rawForm_join_eq_iff (parts others : List String) :
    rawForm (Path.join parts) = rawForm (Path.join others) ↔
      parts.flatMap Path.split = others.flatMap Path.split := by
  constructor
  · intro hforms
    have hpieces := split_eq_of_rawForm_eq hforms
    rwa [Path.split_join, Path.split_join] at hpieces
  · intro hpieces
    rw [Path.join_eq_intercalate_split, Path.join_eq_intercalate_split, hpieces]

/-! ## The path of a registration -/

namespace Routing

/-- The path of a registration below its router. -/
def pathBelow (routing : Routing) (registration : Registration) : String :=
  match registration.router.bind routing.pathOf? with
  | some above => Path.join [above, registration.path]
  | none => registration.path

/-- The paths that the router of a registration is mounted under; without a router there are none.
-/
def mountsAbove (routing : Routing) (registration : Registration) : List String :=
  registration.router.elim [] routing.mountsOf

/-- The path of a registration below its router has the pieces of the mounts, and then its own. -/
theorem split_pathBelow (routing : Routing) (registration : Registration) :
    Path.split (routing.pathBelow registration) =
      (routing.mountsAbove registration).flatMap Path.split ++ Path.split registration.path := by
  unfold pathBelow mountsAbove
  cases registration.router with
  | none => rfl
  | some name =>
    by_cases hmounts : routing.mountsOf name = []
    · simp [pathOf?, joined?, hmounts]
    · simp [pathOf?, joined?, hmounts]

end Routing

namespace Settings

/-- The parts of the path at which a route is reached: the path in front of all routes, the mounts
of its router, and its own path. -/
def pathParts (settings : Settings) (routing : Routing) (registration : Registration) :
    List String :=
  settings.globalPath.toList ++ routing.mountsAbove registration ++ [registration.path]

/-- Without a path in front of all routes, a route is reached at its path below its router. -/
theorem fullPath_of_none {settings : Settings} (hglobal : settings.globalPath = none)
    (routing : Routing) (registration : Registration) :
    settings.fullPath routing registration = routing.pathBelow registration := by
  unfold fullPath
  rw [hglobal]
  rfl

/-- A path in front of all routes is joined with the path of a route below its router. -/
theorem fullPath_of_some {settings : Settings} {above : String}
    (hglobal : settings.globalPath = some above) (routing : Routing) (registration : Registration) :
    settings.fullPath routing registration =
      Path.join [above, routing.pathBelow registration] := by
  unfold fullPath
  rw [hglobal]
  rfl

/-- The path at which a route is reached has the pieces of its parts. -/
theorem split_fullPath (settings : Settings) (routing : Routing) (registration : Registration) :
    Path.split (settings.fullPath routing registration) =
      (settings.pathParts routing registration).flatMap Path.split := by
  have hbelow := routing.split_pathBelow registration
  cases hglobal : settings.globalPath with
  | none => simp [fullPath_of_none hglobal, pathParts, hglobal, hbelow]
  | some above => simp [fullPath_of_some hglobal, pathParts, hglobal, hbelow]

/-- The path at which a route is reached has the normalized texts of its parts. -/
theorem normalizedTexts_fullPath (settings : Settings) (routing : Routing)
    (registration : Registration) :
    Segment.normalizedTexts (settings.fullPath routing registration) =
      (settings.pathParts routing registration).flatMap Segment.normalizedTexts := by
  rw [Segment.normalizedTexts, Segment.ofPath, split_fullPath, List.map_flatMap, List.map_flatMap]
  rfl

/-- At the segment levels, what stands above two registrations makes no difference to whether they
have the same form, as long as it is the same. -/
theorem canonicalForm_fullPath_eq_iff (settings : Settings) {level : Level} (hlevel : level ≠ .raw)
    {routing otherRouting : Routing} {registration other : Registration}
    (hmounts : routing.mountsAbove registration = otherRouting.mountsAbove other) :
    canonicalForm (settings.fullPath routing registration) level =
        canonicalForm (settings.fullPath otherRouting other) level ↔
      canonicalForm registration.path level = canonicalForm other.path level := by
  rw [canonicalForm_eq_iff hlevel, canonicalForm_eq_iff hlevel, normalizedTexts_fullPath,
    normalizedTexts_fullPath, pathParts, pathParts, hmounts]
  simp only [List.flatMap_append, List.flatMap_singleton, List.append_cancel_left_eq]

end Settings

end RouteAudit
