import RouteAudit.Proofs.ComposedForms
import RouteAudit.Proofs.Refusals

/-!
# The raw level and the segment levels

The raw form of a path has the segments of the path, so the segment levels take the raw form for the
path itself and tell nothing apart that the raw level does not. A run at a segment level therefore
refuses every arrival that a run at the raw level refuses: it finds as much at least and registers
as much at most.
-/

namespace RouteAudit

/-- The raw form of a path has the same form as the path, at every level. -/
theorem canonicalForm_rawForm (path : String) (level : Level) :
    canonicalForm (rawForm path) level = canonicalForm path level := by
  by_cases hlevel : level = .raw
  · subst hlevel
    rw [canonicalForm_raw, canonicalForm_raw, rawForm_rawForm]
  · rw [canonicalForm_eq_iff hlevel, Segment.normalizedTexts, ofPath_rawForm,
      Segment.normalizedTexts]

/-- Paths that have the same form at the raw level have it at every level. -/
theorem canonicalForm_eq_of_raw {path other : String}
    (h : canonicalForm path .raw = canonicalForm other .raw) (level : Level) :
    canonicalForm path level = canonicalForm other level := by
  rw [canonicalForm_raw, canonicalForm_raw] at h
  rw [← canonicalForm_rawForm path, h, canonicalForm_rawForm]

namespace Settings

/-- The settings with the raw level. -/
def atRaw (settings : Settings) : Settings :=
  { settings with level := .raw }

/-- Without colons in methods, arrivals that share their key at the raw level share it at the level
of the settings. -/
theorem keyOf_eq_of_atRaw (settings : Settings) {files : List SourceFile}
    (hmethods : MethodsWithoutColon files) {a b : Arrival} (ha : a ∈ settings.arrivals files)
    (hb : b ∈ settings.arrivals files) (hkey : settings.atRaw.keyOf a = settings.atRaw.keyOf b) :
    settings.keyOf a = settings.keyOf b := by
  obtain ⟨hmethod, hform⟩ := (settings.atRaw.keyOf_eq_iff hmethods ha hb).mp hkey
  exact (settings.keyOf_eq_iff hmethods ha hb).mpr
    ⟨hmethod, canonicalForm_eq_of_raw hform settings.level⟩

/-- Without colons in methods, what is refused at the raw level is refused at the level of the
settings. -/
theorem refusals_atRaw_sublist (settings : Settings) {files : List SourceFile}
    (hmethods : MethodsWithoutColon files) :
    ((settings.atRaw.refusals files).map Prod.fst).Sublist
      ((settings.refusals files).map Prod.fst) := by
  apply recurringAfter_sublist
  intro a ha b hb hkey
  exact settings.keyOf_eq_of_atRaw hmethods ha hb hkey

end Settings

/-! ## Runs at two levels -/

/-- A run over files loses no refusal of a run over the same files at the raw level. -/
structure AuditResult.KeepsRefusals (settings : Settings) (files : List SourceFile)
    (raw result : AuditResult) : Prop where
  rawTells : raw.Tells settings.atRaw files
  tells : result.Tells settings files
  /-- What is refused at the raw level is refused. -/
  refused : ((settings.atRaw.refusals files).map Prod.fst).Sublist
    ((settings.refusals files).map Prod.fst)
  findings : raw.findings.length ≤ result.findings.length
  registered : result.routesRegistered ≤ raw.routesRegistered

/-- Without colons in methods, results that tell of the refusals at the raw level and at the level
of the settings compare as the refusals do. -/
theorem AuditResult.Tells.keepsRefusals {settings : Settings} {files : List SourceFile}
    {raw result : AuditResult} (hraw : raw.Tells settings.atRaw files)
    (hresult : result.Tells settings files) (hmethods : MethodsWithoutColon files) :
    raw.KeepsRefusals settings files result := by
  have hrefused := settings.refusals_atRaw_sublist hmethods
  have hfindings : raw.findings.length ≤ result.findings.length := by
    rw [hraw.length_findings, hresult.length_findings]
    simpa using hrefused.length_le
  refine ⟨hraw, hresult, hrefused, hfindings, ?_⟩
  have hrawRegistered := hraw.registered
  have hregistered := hresult.registered
  have harrivals : settings.atRaw.arrivals files = settings.arrivals files := rfl
  rw [harrivals] at hrawRegistered
  omega

namespace Audit

/-- **Higher levels lose no collision.** Of two audits that differ in the level only, one is at the
raw level, and each takes the same files in a new run. What the one at the raw level refuses, the
other one refuses as well; and normalizing a path at the raw level first makes no difference to its
form. -/
theorem higher_level_keeps_refusals (settings : Settings) (steps otherSteps : List AuditStep)
    (files : List SourceFile) (runId otherRunId : Option String)
    (hmethods : MethodsWithoutColon files)
    (hnew : (reached settings.atRaw steps).ledger.runId ≠
      some ((reached settings.atRaw steps).nameRun runId).1)
    (hotherNew : (reached settings otherSteps).ledger.runId ≠
      some ((reached settings otherSteps).nameRun otherRunId).1) :
    ((reached settings.atRaw steps).run files runId never).value.KeepsRefusals settings files
        ((reached settings otherSteps).run files otherRunId never).value ∧
      ∀ (path : String) (level : Level) (keep otherKeep : Bool),
        ((reached settings otherSteps).normalizer.normalize
            ((reached settings.atRaw steps).normalizer.normalize path .raw keep).1 level
            otherKeep).1 =
          ((reached settings otherSteps).normalizer.normalize path level otherKeep).1 := by
  have hsound := (follows_reached settings.atRaw steps).2
  have hother := (follows_reached settings otherSteps).2
  constructor
  · have hraw := run_tells settings.atRaw steps files runId hnew
    have hresult := run_tells settings otherSteps files otherRunId hotherNew
    exact hraw.keepsRefusals hresult hmethods
  · intro path level keep otherKeep
    rw [hsound.normalizer.normalize_fst, hother.normalizer.normalize_fst,
      hother.normalizer.normalize_fst, canonicalForm_raw, canonicalForm_rawForm]

/-- A file that registers a route again with another slash, and again with another name of its
parameter. -/
def registeredThrice : List SourceFile :=
  [{ path := "a.js", events :=
      [.routeRegistered { method := "get", path := "/users/:id" },
        .routeRegistered { method := "get", path := "//users/:id" },
        .routeRegistered { method := "get", path := "/users/:name" }] }]

/-- The other slash is refused at both levels, the other name at the higher one only. -/
theorem higher_level_keeps_refusals_registeredThrice :
    MethodsWithoutColon registeredThrice ∧
      ((reached Settings.default.atRaw []).run registeredThrice (some "one")
        never).value.KeepsRefusals .default registeredThrice
          ((reached .default []).run registeredThrice (some "one") never).value ∧
      (Settings.default.atRaw.refusals registeredThrice).map
        (fun refusal => (refusal.1.place, refusal.2.place)) = [((0, 1), (0, 0))] ∧
      (Settings.default.refusals registeredThrice).map
        (fun refusal => (refusal.1.place, refusal.2.place)) =
          [((0, 1), (0, 0)), ((0, 2), (0, 0))] := by
  have hmethods : MethodsWithoutColon registeredThrice := by decide
  have hkeeps := higher_level_keeps_refusals .default [] [] registeredThrice (some "one")
    (some "one") hmethods nofun nofun
  exact ⟨hmethods, hkeeps.1, by decide +kernel, by decide +kernel⟩

end Audit

end RouteAudit
