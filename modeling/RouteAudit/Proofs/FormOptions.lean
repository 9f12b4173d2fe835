import RouteAudit.Proofs.RunOutcomes

/-!
# Constraints and the two segment levels

Whether constraints are to be kept, and which of the two segment levels is chosen, decides what
canonical forms are remembered under and not what they are. New runs under settings that differ in
nothing else therefore come to the same.
-/

namespace RouteAudit

/-- The canonical form of a path depends on the level only as far as it is the raw one. -/
theorem canonicalForm_congr {level other : Level} (h : level = .raw ↔ other = .raw)
    (path : String) : canonicalForm path level = canonicalForm path other := by
  unfold canonicalForm
  cases level with
  | raw => rw [h.mp rfl]
  | relaxed | strict =>
    cases other with
    | raw => exact absurd (h.mpr rfl) nofun
    | relaxed | strict => rfl

/-- What is found about a duplicate depends on the level only as far as it is the raw one. -/
theorem Finding.duplicate_congr {level other : Level} (h : level = .raw ↔ other = .raw)
    (severity : Severity) (route first : Route) :
    Finding.duplicate severity level route first = .duplicate severity other route first := by
  have hverdict : Verdict.ofDuplicate level route first = .ofDuplicate other route first := by
    unfold Verdict.ofDuplicate
    simp only [ne_eq, h]
  rw [Finding.duplicate, Finding.duplicate, hverdict]

namespace Settings

/-- The settings with another level, and with constraints kept or not. -/
def withForms (settings : Settings) (level : Level) (keepConstraints : Bool) : Settings :=
  { settings with level, keepConstraints }

variable {settings : Settings} {level : Level}

/-- With the same forms of paths, the entry of a registration is the same. -/
theorem routeOf_withForms (h : level = .raw ↔ settings.level = .raw) (keepConstraints : Bool) :
    (settings.withForms level keepConstraints).routeOf = settings.routeOf := by
  funext routing file registration
  unfold routeOf
  rw [show (settings.withForms level keepConstraints).level = level from rfl,
    canonicalForm_congr h]
  rfl

/-- With the same forms of paths, new runs come to the same. -/
theorem outcome_withForms (h : level = .raw ↔ settings.level = .raw) (keepConstraints : Bool)
    (files : List SourceFile) (cancelled : Bool) :
    (settings.withForms level keepConstraints).outcome files cancelled =
      settings.outcome files cancelled := by
  have hdepth : (settings.withForms level keepConstraints).maxDepth = settings.maxDepth := rfl
  have hroute := routeOf_withForms h keepConstraints
  have hduplicate : (settings.withForms level keepConstraints).duplicateOf =
      settings.duplicateOf := by
    funext refusal
    exact Finding.duplicate_congr h settings.duplicates refusal.1 refusal.2
  exact outcome_congr hdepth hroute hduplicate files cancelled

end Settings

/-- The summary of a run does not tell of caches. -/
theorem AuditResult.summary_of_withoutStats {result plain : AuditResult}
    (h : (Answer.result result).withoutStats = .result plain) : result.summary = plain.summary := by
  rw [eq_of_withoutStats h]
  rfl

namespace Audit

/-- **Options that do not show.** Two audits differ in whether constraints are to be kept, and in
the choice between the two segment levels. Whatever was done to either of them, the same files in
new runs come to the same result and the same summary, wherever a signal stops the runs; only the
numbers that caches report about themselves may differ. -/
theorem form_options_never_show (settings : Settings) (level : Level) (keepConstraints : Bool)
    (steps otherSteps : List AuditStep) (files : List SourceFile) (runId otherRunId : Option String)
    (stop : Nat → Bool) (hlevel : level = .raw ↔ settings.level = .raw)
    (hnew : (reached settings steps).ledger.runId ≠
      some ((reached settings steps).nameRun runId).1)
    (hotherNew : (reached (settings.withForms level keepConstraints) otherSteps).ledger.runId ≠
      some ((reached (settings.withForms level keepConstraints) otherSteps).nameRun otherRunId).1) :
    (Answer.result ((reached settings steps).run files runId stop).value).withoutStats =
        (Answer.result ((reached (settings.withForms level keepConstraints) otherSteps).run files
          otherRunId stop).value).withoutStats ∧
      ((reached settings steps).run files runId stop).value.summary =
        ((reached (settings.withForms level keepConstraints) otherSteps).run files
          otherRunId stop).value.summary := by
  obtain ⟨hresult, -⟩ := run_outcome hnew files stop
  obtain ⟨hother, -⟩ := run_outcome hotherNew files stop
  rw [Settings.outcome_withForms hlevel] at hother
  have hsummary := AuditResult.summary_of_withoutStats hresult
  have hotherSummary := AuditResult.summary_of_withoutStats hother
  exact ⟨hresult.trans hother.symm, hsummary.trans hotherSummary.symm⟩

/-- Two routes that differ in the constraint of their parameter. -/
def constrainedTwice : List SourceFile :=
  [{ path := "a.js", events := [.routeRegistered { method := "get", path := "/users/:id(\\d+)" },
    .routeRegistered { method := "get", path := "/users/:id(\\w+)" }] }]

/-- The strict level with constraints kept finds what the relaxed level without them finds. -/
theorem form_options_never_show_constrainedTwice :
    (Level.strict = .raw ↔ Settings.default.level = .raw) ∧
      ((reached .default []).run constrainedTwice (some "one") never).value.summary =
        ((reached (Settings.default.withForms .strict true) []).run constrainedTwice (some "two")
          never).value.summary ∧
      ((reached .default []).run constrainedTwice (some "one") never).value.findings.map
          Finding.collision =
        ((reached (Settings.default.withForms .strict true) []).run constrainedTwice (some "two")
          never).value.findings.map Finding.collision ∧
      ((reached .default []).run constrainedTwice (some "one") never).value.findings.length =
        1 := by
  have hlevel : Level.strict = .raw ↔ Settings.default.level = .raw := by decide
  obtain ⟨hresult, hsummary⟩ := form_options_never_show .default .strict true [] []
    constrainedTwice (some "one") (some "two") never hlevel nofun nofun
  have hfindings := congrArg Answer.allFindings hresult
  exact ⟨hlevel, hsummary, congrArg (List.map Finding.collision) hfindings, by decide +kernel⟩

end Audit

end RouteAudit
