import RouteAudit.Proofs.Registrations

/-!
# What keys tell apart

A key is a method, a colon and a canonical path, and canonical paths begin with a slash. So a key
can be read in two ways only if a method holds a colon with a slash behind it. As long as no method
does, routes under one key have the same method and the same path, and every finding is about one
route. A method that does hold one can take up the key of another route.
-/

namespace RouteAudit

/-! ## Upper case -/

namespace Text

/-- Only the code of the colon gives the colon. -/
theorem eq_of_ofNat_eq_colon {code : Nat} (h : Char.ofNat code = ':') : code = 0x3A := by
  unfold Char.ofNat at h
  by_cases hvalid : code.isValidChar
  · rw [dif_pos hvalid] at h
    have hcode : (Char.ofNatAux code hvalid).toNat = 0x3A := by rw [h]; rfl
    exact hcode
  · rw [dif_neg hvalid] at h
    cases h

/-- In no run of letters does an upper case come down to the colon. -/
theorem colon_lt_upperRuns : ∀ run ∈ upperRuns, 0x3A < (run.first : Int) + run.distance := by
  decide +kernel

/-- In no upper case of several letters is there a colon. -/
theorem colon_notMem_upperExpansions : ∀ entry ∈ upperExpansions, 0x3A ∉ entry.2 := by
  decide +kernel

/-- Only the colon has an upper case with a colon in it. -/
theorem eq_colon_of_mem_upperChar {c : Char} (h : ':' ∈ upperChar c) : c = ':' := by
  unfold upperChar at h
  split at h
  · next codes hlookup =>
    obtain ⟨code, hmem, hcode⟩ := List.mem_map.mp h
    rw [eq_of_ofNat_eq_colon hcode] at hmem
    obtain ⟨before, behind, hentries, -⟩ := List.lookup_eq_some_iff.mp hlookup
    exact absurd hmem (colon_notMem_upperExpansions (c.toNat, codes) (by simp [hentries]))
  · have hcode := eq_of_ofNat_eq_colon (List.mem_singleton.mp h).symm
    unfold mapCase at hcode
    split at hcode
    · next run hfound =>
      have hlow := colon_lt_upperRuns run (List.mem_of_find?_eq_some hfound)
      have hhas := List.find?_some hfound
      simp only [CaseRun.has, Bool.and_eq_true, decide_eq_true_eq] at hhas
      unfold CaseRun.target at hcode
      omega
    · rw [← Char.ofNat_toNat c, hcode]

/-- A text whose upper case holds a colon holds one. -/
theorem colon_mem_of_upper {text : String} (h : ':' ∈ (upper text).toList) : ':' ∈ text.toList := by
  unfold upper at h
  rw [String.toList_ofList] at h
  obtain ⟨c, hc, hcolon⟩ := List.mem_flatMap.mp h
  rwa [eq_colon_of_mem_upperChar hcolon] at hc

end Text

/-! ## Keys -/

namespace Route

/-- Nowhere in the method does a slash follow a colon. -/
def HasPlainMethod (route : Route) : Prop :=
  ¬[':', '/'] <:+: route.method.toList

/-- Whether a method is plain can be tested. -/
instance (route : Route) : Decidable route.HasPlainMethod :=
  inferInstanceAs (Decidable (¬_))

/-- A method without a colon is plain. -/
theorem hasPlainMethod_of_colon_notMem {route : Route} (h : ':' ∉ route.method.toList) :
    route.HasPlainMethod := by
  intro hheld
  exact h (hheld.subset (by simp))

/-- A key cannot be read with a longer method that is plain: the method would go on with the colon,
and then with the slash that the path begins with. -/
theorem method_eq_of_longer {longer method more path other : List Char}
    (hlonger : longer = method ++ more) (hkey : ':' :: path = more ++ ':' :: other)
    (hpath : path.head? = some '/') (hplain : ¬[':', '/'] <:+: longer) : longer = method := by
  cases more with
  | nil => rw [hlonger, List.append_nil]
  | cons colon before =>
    refine absurd ?_ hplain
    obtain ⟨hcolon, hbefore⟩ := List.cons.inj hkey
    rw [hbefore] at hpath
    cases before with
    | nil => exact absurd hpath (by simp)
    | cons slash between =>
      obtain rfl : slash = '/' := by simpa using hpath
      exact ⟨method, between, by simp [hlonger, ← hcolon]⟩

variable {level : Level} {route first : Route}

/-- A canonical path begins with a slash. -/
theorem Canonical.head?_path (h : route.Canonical level) : route.path.toList.head? = some '/' := by
  obtain ⟨rest, hrest⟩ := exists_toList_canonicalForm route.effectivePath level
  rw [show route.path = _ from h, hrest]
  rfl

/-- **Plain methods keep keys apart.** Canonical routes with plain methods share their key only if
they share the method and the path. -/
theorem eq_of_key_eq (hroute : route.Canonical level) (hfirst : first.Canonical level)
    (hplain : route.HasPlainMethod) (hfirstPlain : first.HasPlainMethod)
    (hkey : route.key = first.key) : route.method = first.method ∧ route.path = first.path := by
  have hchars : route.method.toList ++ ':' :: route.path.toList =
      first.method.toList ++ ':' :: first.path.toList := by
    rw [← toList_key, ← toList_key, hkey]
  have hsame : route.method.toList = first.method.toList := by
    rcases List.append_eq_append_iff.mp hchars with ⟨more, hlonger, hmore⟩ | ⟨more, hlonger, hmore⟩
    · exact (method_eq_of_longer hlonger hmore hroute.head?_path hfirstPlain).symm
    · exact method_eq_of_longer hlonger hmore hfirst.head?_path hplain
  rw [hsame, List.append_cancel_left_eq] at hchars
  exact ⟨String.toList_inj.mp hsame, String.toList_inj.mp (List.cons.inj hchars).2⟩

end Route

namespace Audit

/-- **Findings are about one route.** Whatever an audit is asked for, every finding tells of two
routes under one key. As long as their methods are plain, they have the same method and the same
path. -/
theorem findings_pair_same_routes (settings : Settings) (calls : List Call) :
    ∀ finding ∈ (answers settings calls).flatMap Answer.allFindings,
      finding.route.key = finding.first.key ∧
        (finding.route.HasPlainMethod → finding.first.HasPlainMethod →
          finding.route.method = finding.first.method ∧
            finding.route.path = finding.first.path) := by
  intro finding hfinding
  obtain ⟨hroute, hfirst, hkey⟩ := (finds_answers settings calls finding hfinding).collides
  refine ⟨hkey, ?_⟩
  intro hplain hfirstPlain
  exact Route.eq_of_key_eq hroute hfirst hplain hfirstPlain hkey

/-- The route that comes second in the example, and the one that it is paired with. -/
def renamedPair : Finding where
  severity := .error
  kind := .duplicateRoute
  route :=
    { method := "GET", path := "/users/:param", file := "b.js", line := .number 0
      effectivePath := "/users/:name" }
  first :=
    { method := "GET", path := "/users/:param", file := "a.js", line := .number 0
      effectivePath := "/users/:id" }
  verdict := .renamed

/-- Two routes that differ in the name of a parameter are the same route. -/
theorem findings_pair_same_routes_renamedTwice :
    renamedPair ∈
        (answers .default [.run renamedTwice (some "one") never]).flatMap Answer.allFindings ∧
      renamedPair.route.HasPlainMethod ∧ renamedPair.first.HasPlainMethod ∧
      renamedPair.route.method = renamedPair.first.method ∧
      renamedPair.route.path = renamedPair.first.path := by
  have hmem : renamedPair ∈
      (answers .default [.run renamedTwice (some "one") never]).flatMap Answer.allFindings := by
    decide +kernel
  have hroute : renamedPair.route.HasPlainMethod := by decide
  have hfirst : renamedPair.first.HasPlainMethod := by decide
  have hpair := findings_pair_same_routes .default [.run renamedTwice (some "one") never]
    renamedPair hmem
  exact ⟨hmem, hroute, hfirst, hpair.2 hroute hfirst⟩

/-- A file with two routes that have nothing in common but their key. -/
def splitKey : List SourceFile :=
  [{ path := "a.js", events :=
      [.routeRegistered { method := "get", path := "/X:/y", line := .number 1 },
        .routeRegistered { method := "get:/x", path := "/y", line := .number 2 }] }]

/-- With a method that is not plain, a finding may be about two routes. -/
theorem not_forall_findings_pair_same_routes :
    ¬∀ (settings : Settings) (calls : List Call),
      ∀ finding ∈ (answers settings calls).flatMap Answer.allFindings,
        finding.route.method = finding.first.method ∧
          finding.route.path = finding.first.path := by
  intro hsame
  have hone := hsame .default [.run splitKey (some "one") never]
  revert hone
  decide +kernel

end Audit

end RouteAudit
