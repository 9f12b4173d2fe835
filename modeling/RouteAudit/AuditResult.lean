import RouteAudit.Finding

/-!
# Results of an audit

What a run over a list of files comes to, and its summary.
-/

namespace RouteAudit

/-- The outcome of a run. -/
structure AuditResult where
  findings : List Finding
  filesProcessed : Nat
  /-- The number of registrations in the ledger after the run. -/
  routesRegistered : Nat
  /-- Whether the run was stopped before its last file. -/
  cancelled : Bool
  formStats : CacheStats
  joinStats : CacheStats
  deriving DecidableEq, Repr

namespace AuditResult

/-- The findings of a severity. -/
def ofSeverity (result : AuditResult) (severity : Severity) : List Finding :=
  result.findings.filter (·.severity == severity)

/-- The findings that are errors. -/
def errors (result : AuditResult) : List Finding :=
  result.ofSeverity .error

/-- The findings that are warnings. -/
def warnings (result : AuditResult) : List Finding :=
  result.ofSeverity .warning

/-- Whether there are no errors. -/
def ok (result : AuditResult) : Bool :=
  result.errors.isEmpty

/-- The line that counts the findings. -/
def countLine (result : AuditResult) : String :=
  let errors := result.errors.length
  let warnings := result.warnings.length
  if errors = 0 ∧ warnings = 0 then "No issues found."
  else if errors = 0 then s!"No errors. {warnings} warning(s)."
  else s!"{errors} error(s), {warnings} warning(s)."

/-- The summary of a run. -/
def summary (result : AuditResult) : String :=
  let head := s!"Checked {result.filesProcessed} files, " ++
    s!"registered {result.routesRegistered} unique routes."
  let stopped :=
    if result.cancelled then ["Run cancelled before all files were processed."] else []
  "\n".intercalate
    (head :: stopped ++ result.countLine :: result.findings.flatMap Finding.summaryLines)

end AuditResult

end RouteAudit
