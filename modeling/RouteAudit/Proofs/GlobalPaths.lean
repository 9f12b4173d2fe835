import RouteAudit.Proofs.ComposedForms
import RouteAudit.Proofs.Refusals

/-!
# Paths in front of all routes

A path in front of all routes is joined with the path of each. At the segment levels that makes no
difference to which routes have the same form, so a run refuses the same arrivals with such a path
and without it. At the raw level it does: a canonical form keeps slashes in the middle and at the
end of a path, and joining removes them. There a path in front of all routes may make more arrivals
be refused, but none fewer.
-/

namespace RouteAudit

/-! ## Joining with one path -/

/-- At the segment levels, joined with one path in front, paths have the same form exactly if they
have it on their own. -/
theorem canonicalForm_join_eq_iff {level : Level} (hlevel : level ≠ .raw)
    (above path other : String) :
    canonicalForm (Path.join [above, path]) level =
        canonicalForm (Path.join [above, other]) level ↔
      canonicalForm path level = canonicalForm other level := by
  have htexts : ∀ below, Segment.normalizedTexts (Path.join [above, below]) =
      Segment.normalizedTexts above ++ Segment.normalizedTexts below := by
    intro below
    simp [Segment.normalizedTexts, Segment.ofPath_join]
  rw [canonicalForm_eq_iff hlevel, canonicalForm_eq_iff hlevel, htexts, htexts,
    List.append_cancel_left_eq]

/-- At the raw level, joined with one path in front, paths have the same form exactly if they have
the same pieces. -/
theorem canonicalForm_raw_join_eq_iff (above path other : String) :
    canonicalForm (Path.join [above, path]) .raw = canonicalForm (Path.join [above, other]) .raw ↔
      Path.split path = Path.split other := by
  rw [canonicalForm_raw, canonicalForm_raw, rawForm_join_eq_iff]
  simp

/-- Paths with the same form have the same form when they are joined with one path in front. -/
theorem canonicalForm_join_eq_of_eq {level : Level} (above : String) {path other : String}
    (h : canonicalForm path level = canonicalForm other level) :
    canonicalForm (Path.join [above, path]) level =
      canonicalForm (Path.join [above, other]) level := by
  by_cases hlevel : level = .raw
  · subst hlevel
    rw [canonicalForm_raw, canonicalForm_raw] at h
    exact (canonicalForm_raw_join_eq_iff above path other).mpr (split_eq_of_rawForm_eq h)
  · exact (canonicalForm_join_eq_iff hlevel above path other).mpr h

/-! ## Refusals below one path -/

/-- The path of an arrival below its router. -/
def Arrival.pathBelow (arrival : Arrival) : String :=
  arrival.routing.pathBelow arrival.registration

namespace Settings

/-- The settings with a given path, or none, in front of all routes. -/
def under (settings : Settings) (above : Option String) : Settings :=
  { settings with globalPath := above }

/-- Without a path in front of all routes, arrivals share their key exactly if they share the method
and the form of the path below the router. -/
theorem keyOf_under_none_eq_iff (settings : Settings) {files : List SourceFile}
    (hmethods : MethodsWithoutColon files) {a b : Arrival} (ha : a ∈ settings.arrivals files)
    (hb : b ∈ settings.arrivals files) :
    (settings.under none).keyOf a = (settings.under none).keyOf b ↔
      Text.upper a.registration.method = Text.upper b.registration.method ∧
        canonicalForm a.pathBelow settings.level = canonicalForm b.pathBelow settings.level := by
  have hpath : ∀ arrival : Arrival, (settings.under none).pathOf arrival = arrival.pathBelow :=
    fun arrival => fullPath_of_none rfl arrival.routing arrival.registration
  rw [(settings.under none).keyOf_eq_iff hmethods ha hb, hpath, hpath]
  rfl

/-- With a path in front of all routes, the form that counts is the one of the joined path. -/
theorem keyOf_under_some_eq_iff (settings : Settings) (above : String) {files : List SourceFile}
    (hmethods : MethodsWithoutColon files) {a b : Arrival} (ha : a ∈ settings.arrivals files)
    (hb : b ∈ settings.arrivals files) :
    (settings.under (some above)).keyOf a = (settings.under (some above)).keyOf b ↔
      Text.upper a.registration.method = Text.upper b.registration.method ∧
        canonicalForm (Path.join [above, a.pathBelow]) settings.level =
          canonicalForm (Path.join [above, b.pathBelow]) settings.level := by
  have hpath : ∀ arrival : Arrival,
      (settings.under (some above)).pathOf arrival = Path.join [above, arrival.pathBelow] :=
    fun arrival => fullPath_of_some rfl arrival.routing arrival.registration
  rw [(settings.under (some above)).keyOf_eq_iff hmethods ha hb, hpath, hpath]
  rfl

/-- The arrivals that share their method and the pieces of their paths below the router share the
raw form of these paths: no two of them differ in slashes behind the first piece. -/
def SlashesAgree (settings : Settings) (files : List SourceFile) : Prop :=
  ∀ a ∈ settings.arrivals files, ∀ b ∈ settings.arrivals files,
    Text.upper a.registration.method = Text.upper b.registration.method →
      Path.split a.pathBelow = Path.split b.pathBelow → rawForm a.pathBelow = rawForm b.pathBelow

/-- What a path in front of all routes does to the refusals of a new run over files. -/
structure RefusalsUnder (settings : Settings) (above : String) (files : List SourceFile) :
    Prop where
  /-- At the segment levels the same arrivals are refused, each after the same one. -/
  same_of_ne_raw : settings.level ≠ .raw →
    (settings.under none).refusals files = (settings.under (some above)).refusals files
  /-- At the raw level this is so exactly if slashes agree. -/
  same_iff_of_raw : settings.level = .raw →
    ((settings.under none).refusals files = (settings.under (some above)).refusals files ↔
      settings.SlashesAgree files)
  /-- At no level is an arrival refused without the path only. -/
  kept : (((settings.under none).refusals files).map Prod.fst).Sublist
    (((settings.under (some above)).refusals files).map Prod.fst)

/-- Without colons in methods, a path in front of all routes does to the refusals what it does to
the forms of paths. -/
theorem refusalsUnder (settings : Settings) (above : String) {files : List SourceFile}
    (hmethods : MethodsWithoutColon files) : settings.RefusalsUnder above files where
  same_of_ne_raw := by
    intro hlevel
    apply (recurring_eq_iff _ _ _).mpr
    intro a ha b hb
    rw [settings.keyOf_under_none_eq_iff hmethods ha hb,
      settings.keyOf_under_some_eq_iff above hmethods ha hb, canonicalForm_join_eq_iff hlevel]
  same_iff_of_raw := by
    intro hlevel
    have hsame := recurring_eq_iff (settings.under none).keyOf
      (settings.under (some above)).keyOf (settings.arrivals files)
    refine hsame.trans ?_
    constructor
    · intro hkeys a ha b hb hmethod hpieces
      have hkey := (hkeys a ha b hb).mpr
        ((settings.keyOf_under_some_eq_iff above hmethods ha hb).mpr
          ⟨hmethod, by rw [hlevel]; exact (canonicalForm_raw_join_eq_iff _ _ _).mpr hpieces⟩)
      have hform := ((settings.keyOf_under_none_eq_iff hmethods ha hb).mp hkey).2
      rwa [hlevel, canonicalForm_raw, canonicalForm_raw] at hform
    · intro hslashes a ha b hb
      rw [settings.keyOf_under_none_eq_iff hmethods ha hb,
        settings.keyOf_under_some_eq_iff above hmethods ha hb, hlevel,
        canonicalForm_raw_join_eq_iff, canonicalForm_raw, canonicalForm_raw]
      constructor
      · rintro ⟨hmethod, hform⟩
        exact ⟨hmethod, split_eq_of_rawForm_eq hform⟩
      · rintro ⟨hmethod, hpieces⟩
        exact ⟨hmethod, hslashes a ha b hb hmethod hpieces⟩
  kept := by
    apply recurringAfter_sublist
    intro a ha b hb hkey
    obtain ⟨hmethod, hform⟩ := (settings.keyOf_under_none_eq_iff hmethods ha hb).mp hkey
    exact (settings.keyOf_under_some_eq_iff above hmethods ha hb).mpr
      ⟨hmethod, canonicalForm_join_eq_of_eq above hform⟩

end Settings

/-! ## Runs below one path -/

/-- Where the two routes of a finding stand. -/
def Finding.locations (finding : Finding) : String × String :=
  (finding.route.location, finding.first.location)

namespace Audit

/-- **A path in front of all routes.** Two audits differ in such a path only, and each takes the
same files in a new run. At the segment levels they refuse the same arrivals, each against the same
one; at the raw level they do so exactly if slashes agree, and the audit with the path refuses at
least what the other one does. -/
theorem global_path_refusals (settings : Settings) (above : String)
    (steps otherSteps : List AuditStep) (files : List SourceFile) (runId otherRunId : Option String)
    (hmethods : MethodsWithoutColon files)
    (hnew : (reached (settings.under none) steps).ledger.runId ≠
      some ((reached (settings.under none) steps).nameRun runId).1)
    (hotherNew : (reached (settings.under (some above)) otherSteps).ledger.runId ≠
      some ((reached (settings.under (some above)) otherSteps).nameRun otherRunId).1) :
    ((reached (settings.under none) steps).run files runId never).value.Tells
        (settings.under none) files ∧
      ((reached (settings.under (some above)) otherSteps).run files otherRunId never).value.Tells
        (settings.under (some above)) files ∧
      settings.RefusalsUnder above files :=
  ⟨run_tells (settings.under none) steps files runId hnew,
    run_tells (settings.under (some above)) otherSteps files otherRunId hotherNew,
    settings.refusalsUnder above hmethods⟩

/-- A parameter that is renamed is refused at the same place below a path. -/
theorem global_path_refusals_renamedTwice :
    MethodsWithoutColon renamedTwice ∧ Settings.default.RefusalsUnder "/api" renamedTwice ∧
      ((reached (Settings.default.under none) []).run renamedTwice (some "one") never).value.Tells
        (Settings.default.under none) renamedTwice ∧
      ((reached (Settings.default.under (some "/api")) []).run renamedTwice (some "one")
        never).value.Tells (Settings.default.under (some "/api")) renamedTwice ∧
      ((Settings.default.under none).refusals renamedTwice).map
        (fun refusal => (refusal.1.place, refusal.2.place)) = [((1, 0), (0, 0))] := by
  have hmethods : MethodsWithoutColon renamedTwice := by decide
  obtain ⟨htold, hotherTold, hrefusals⟩ := global_path_refusals .default "/api" [] [] renamedTwice
    (some "one") (some "one") hmethods nofun nofun
  exact ⟨hmethods, hrefusals, htold, hotherTold, by decide +kernel⟩

/-- A file with two routes whose paths differ in a slash at the end. -/
def slashAtEnd : List SourceFile :=
  [{ path := "a.js", events :=
      [.routeRegistered { method := "get", path := "/users", line := .number 1 },
        .routeRegistered { method := "get", path := "/users/", line := .number 2 }] }]

/-- At the raw level, a path in front of all routes may add a finding. -/
theorem global_path_adds_finding :
    ¬∀ (settings : Settings) (above : String) (files : List SourceFile),
      above ≠ "" → MethodsWithoutColon files →
        ((ofSettings (settings.under none)).run files (some "one") never).value.findings.map
            Finding.locations =
          ((ofSettings (settings.under (some above))).run files (some "one")
            never).value.findings.map Finding.locations := by
  intro hsame
  have hone := hsame { Settings.default with level := .raw } "/api" slashAtEnd (by decide)
    (by decide)
  revert hone
  decide +kernel

end Audit

end RouteAudit
