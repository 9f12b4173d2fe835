import RouteAudit.Conflict
import RouteAudit.Ledger
import RouteAudit.Settings
import RouteAudit.Text.Blank
import RouteAudit.Text.Upper

/-!
# Findings

A finding is a registration that collides with an earlier one, and what is to be said about it.
-/

namespace RouteAudit

/-- The two messages of findings. -/
inductive FindingKind where
  | duplicateRoute
  | conflictingRoute
  deriving DecidableEq, Repr

/-- The name of a message. -/
def FindingKind.label : FindingKind → String
  | duplicateRoute => "duplicate-route"
  | conflictingRoute => "conflicting-route"

/-- A registration that collides with an earlier one. -/
structure Finding where
  severity : Severity
  kind : FindingKind
  route : Route
  /-- The earlier registration. -/
  first : Route
  verdict : Verdict
  deriving DecidableEq, Repr

namespace Finding

/-- The message of a finding, in several lines. -/
def message (finding : Finding) : String :=
  let head := finding.route.method ++ " " ++ finding.route.effectivePath
  let first := finding.first.location
  match finding.kind with
  | .duplicateRoute =>
      s!"Duplicate route: {head}\n  First defined: {first}\n  Also defined here"
  | .conflictingRoute =>
      s!"Conflicting route: {head}\n  Conflict type: {finding.verdict.kind.label}\n" ++
        s!"  First defined: {first}\n  {finding.verdict.message}"

/-- What is to be said about a registration that collides with an earlier one. Duplicates have the
severity of the settings; other conflicts are warnings, unless they are not to be reported. -/
def of? (settings : Settings) (route first : Route) (verdict : Verdict) : Option Finding :=
  if verdict.kind.isDuplicate then
    match settings.duplicates with
    | .warning => some ⟨.warning, .conflictingRoute, route, first, verdict⟩
    | .error => some ⟨.error, .duplicateRoute, route, first, verdict⟩
  else if verdict.isConflict ∧ settings.warnOnOverlap then
    some ⟨.warning, .conflictingRoute, route, first, verdict⟩
  else none

/-- The lines about a finding in a summary. -/
def summaryLines (finding : Finding) : List String :=
  ("  [" ++ Text.upper finding.severity.label ++ "] " ++ finding.route.location) ::
    (Text.lines finding.message).map ("    " ++ ·)

end Finding

end RouteAudit
