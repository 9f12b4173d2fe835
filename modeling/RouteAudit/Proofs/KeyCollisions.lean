import RouteAudit.Proofs.PlainAudit

/-!
# Routes under one key

Keys put a method and a path into one text, and methods may hold any characters. Two routes with
canonical paths that share a key share the path, or else their paths have different numbers of
segments. In either case their collision is reported as a duplicate.
-/

namespace RouteAudit

/-- The path of a route is the canonical form of the path that it was made from. -/
def Route.Canonical (level : Level) (route : Route) : Prop :=
  route.path = canonicalForm route.effectivePath level

/-- What duplicates are reported as, by the severity that the settings give them. -/
def Severity.reported : Severity → Severity × FindingKind
  | .warning => (.warning, .conflictingRoute)
  | .error => (.error, .duplicateRoute)

/-- The verdict on a route that shares its key with an earlier one. -/
def Verdict.ofDuplicate (level : Level) (route first : Route) : Verdict :=
  if route.effectivePath = first.path then .identical
  else if level ≠ .raw ∧ route.path = first.path then .renamed
  else .sameForm

/-- What is found when a route shares its key with an earlier one. -/
def Finding.duplicate (severity : Severity) (level : Level) (route first : Route) : Finding where
  severity := severity.reported.1
  kind := severity.reported.2
  route := route
  first := first
  verdict := .ofDuplicate level route first

/-- A finding is the one for a duplicate under given settings. -/
def Finding.IsDuplicate (settings : Settings) (finding : Finding) : Prop :=
  finding = .duplicate settings.duplicates settings.level finding.route finding.first

/-- A duplicate differs in the names of parameters where the two routes share the path and the
later one was not written like it. All others are exact. -/
theorem Verdict.kind_ofDuplicate (level : Level) (route first : Route) :
    (Verdict.ofDuplicate level route first).kind =
      if level ≠ .raw ∧ route.path = first.path ∧ route.effectivePath ≠ first.path then .paramName
      else .exactDuplicate := by
  unfold Verdict.ofDuplicate
  by_cases hwritten : route.effectivePath = first.path
  · simp [hwritten, Verdict.kind]
  · by_cases hshared : level ≠ .raw ∧ route.path = first.path
    · simp [hwritten, hshared, Verdict.kind]
    · have hother : ¬(level ≠ .raw ∧ route.path = first.path ∧
          route.effectivePath ≠ first.path) := fun h => hshared ⟨h.1, h.2.1⟩
      simp only [if_neg hwritten, if_neg hshared, if_neg hother, Verdict.kind]

/-! ## Keys -/

/-- A path that goes on with a colon and another absolute path has more pieces than that one. -/
theorem Path.length_pieces_lt (before behind : List Char) :
    (pieces ('/' :: behind)).length < (pieces (before ++ ':' :: '/' :: behind)).length := by
  have hparts : before ++ ':' :: '/' :: behind = (before ++ [':']) ++ '/' :: behind := by simp
  have hmore : 0 < (pieces (before ++ [':'])).length :=
    List.length_pos_iff.mpr (pieces_ne_nil (c := ':') (by simp) (by decide))
  rw [hparts, pieces_append_slash, pieces_slash_cons, List.length_append]
  omega

/-- A path has as many segments as pieces. -/
theorem Segment.length_ofPath (path : String) :
    (Segment.ofPath path).length = (Path.pieces path.toList).length := by
  simp [Segment.ofPath, Path.split]

/-- A canonical form has as many segments as the path. -/
theorem length_ofPath_canonicalForm (path : String) (level : Level) :
    (Segment.ofPath (canonicalForm path level)).length = (Segment.ofPath path).length := by
  rw [ofPath_canonicalForm, List.length_map]

namespace Route

/-- The first of given routes under a key. -/
def earliest? (routes : List Route) (key : String) : Option Route :=
  routes.find? fun route => route.key == key

/-- The first route under a key is one of the routes, and it is under that key. -/
theorem mem_of_earliest? {routes : List Route} {key : String} {route : Route}
    (h : earliest? routes key = some route) : route ∈ routes ∧ route.key = key :=
  ⟨List.mem_of_find?_eq_some h, by simpa using List.find?_some h⟩

variable {level : Level} {route first : Route}

/-- The characters of a key. -/
theorem toList_key (route : Route) :
    route.key.toList = route.method.toList ++ ':' :: route.path.toList := by
  simp [key]

/-- A canonical path that another one ends in, behind a colon, has fewer segments. -/
theorem Canonical.length_lt (hfirst : first.Canonical level) {before : List Char}
    (hpath : route.path.toList = before ++ ':' :: first.path.toList) :
    (Segment.ofPath first.path).length < (Segment.ofPath route.path).length := by
  obtain ⟨behind, hbehind⟩ := exists_toList_canonicalForm first.effectivePath level
  rw [← show first.path = _ from hfirst] at hbehind
  rw [Segment.length_ofPath, Segment.length_ofPath, hpath, hbehind]
  exact Path.length_pieces_lt before behind

/-- If two routes share their key and not their path, one of the paths is longer. -/
theorem length_ne_of_key_eq (hroute : route.Canonical level) (hfirst : first.Canonical level)
    (hkey : route.key = first.key) (hpath : route.path ≠ first.path) :
    (Segment.ofPath route.path).length ≠ (Segment.ofPath first.path).length := by
  have hchars : route.method.toList ++ ':' :: route.path.toList =
      first.method.toList ++ ':' :: first.path.toList := by
    rw [← toList_key, ← toList_key, hkey]
  -- If the methods differ, the path behind the shorter one ends in a colon and the other path.
  rcases List.append_eq_append_iff.mp hchars with ⟨more, -, hmore⟩ | ⟨more, -, hmore⟩
  · cases more with
    | nil => exact absurd (String.toList_inj.mp (List.cons.inj hmore).2) hpath
    | cons colon before => exact (hfirst.length_lt (List.cons.inj hmore).2).ne'
  · cases more with
    | nil => exact absurd (String.toList_inj.mp (List.cons.inj hmore).2).symm hpath
    | cons colon before => exact (hroute.length_lt (List.cons.inj hmore).2).ne

end Route

/-! ## Collisions -/

namespace Settings

/-- The entry that a registration makes has a canonical path. -/
theorem canonical_routeOf (settings : Settings) (routing : Routing) (file : String)
    (registration : Registration) :
    (settings.routeOf routing file registration).Canonical settings.level := rfl

variable {route first : Route}

/-- The verdict at a collision is a duplicate's: where the comparison shows no conflict, the shared
form decides. -/
theorem verdict_of_key_eq {level : Level} (hroute : route.Canonical level)
    (hfirst : first.Canonical level) (hkey : route.key = first.key) :
    (if (Verdict.between route.effectivePath first.path level).isConflict then
        Verdict.between route.effectivePath first.path level
      else .sameForm) = .ofDuplicate level route first := by
  unfold Verdict.ofDuplicate
  by_cases hpath : route.path = first.path
  · have hform : first.path = canonicalForm route.effectivePath level := hpath ▸ hroute
    have hbetween := Verdict.between_canonicalForm route.effectivePath level
    rw [← hform] at hbetween
    rw [hbetween]
    by_cases hwritten : route.effectivePath = first.path
    · simp [hwritten, Verdict.isConflict, Verdict.kind]
    · cases level <;> simp [hwritten, hpath, Verdict.isConflict, Verdict.kind]
  · have hlength := Route.length_ne_of_key_eq hroute hfirst hkey hpath
    have hroutePath : route.path = canonicalForm route.effectivePath level := hroute
    rw [hroutePath, length_ofPath_canonicalForm] at hlength
    have hwritten : route.effectivePath ≠ first.path := by
      intro h
      exact hlength (by rw [h])
    simp [Verdict.between_of_length_ne level hlength, hwritten, hpath, Verdict.isConflict,
      Verdict.kind]

/-- **Collisions are duplicates.** Two routes with canonical paths that share a key are always
reported, whether overlaps are or not. -/
theorem findingOf?_of_key_eq (settings : Settings) (hroute : route.Canonical settings.level)
    (hfirst : first.Canonical settings.level) (hkey : route.key = first.key) :
    settings.findingOf? route first =
      some (.duplicate settings.duplicates settings.level route first) := by
  have hduplicate : (Verdict.ofDuplicate settings.level route first).kind.isDuplicate = true := by
    rw [Verdict.kind_ofDuplicate]
    split <;> rfl
  unfold findingOf? Finding.of? Finding.duplicate
  simp only [verdict_of_key_eq hroute hfirst hkey, hduplicate, if_true]
  cases settings.duplicates <;> rfl

end Settings

end RouteAudit
