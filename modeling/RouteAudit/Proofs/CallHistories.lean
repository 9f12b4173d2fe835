import RouteAudit.Proofs.PlainAudit

/-!
# Histories of calls

What an audit is asked over time, and what it answers. A state is reached from the beginning by
some list of calls. A plain audit understands the same calls.
-/

namespace RouteAudit

/-- Something that an audit is asked for. -/
inductive Call where
  /-- Begins or continues a run. -/
  | beginRun (runId : Option String)
  /-- Runs over files until a signal stops it. -/
  | run (files : List SourceFile) (runId : Option String) (stop : Nat → Bool)
  /-- Takes one file outside of any list. -/
  | processFile (file : SourceFile)
  /-- The canonical form of a path, with the memory of the audit. -/
  | normalize (path : String) (level : Level) (keepConstraints : Bool)
  /-- The path that routes on a name appear below. -/
  | effectivePath (name : String)
  /-- The registrations so far. -/
  | routes

/-- What an audit answers to a call. -/
inductive Answer where
  | runName (name : String)
  | result (outcome : AuditResult)
  | findings (found : List Finding)
  | form (text : String)
  | path (resolved : Option String)
  | routes (entered : List Route)
  deriving DecidableEq, Repr

/-- Two files that register one route, with different names of its parameter. -/
def renamedTwice : List SourceFile :=
  [{ path := "a.js", events := [.routeRegistered { method := "get", path := "/users/:id" }] },
    { path := "b.js", events := [.routeRegistered { method := "GET", path := "/users/:name" }] }]

namespace Answer

/-- The findings that an answer tells of. -/
def allFindings : Answer → List Finding
  | result outcome => outcome.findings
  | findings found => found
  | _ => []

/-- An answer without the numbers that caches report about themselves. -/
def withoutStats : Answer → Answer
  | result outcome => .result { outcome with formStats := ⟨0, 0, 0⟩, joinStats := ⟨0, 0, 0⟩ }
  | answer => answer

end Answer

namespace Audit

/-- Asks an audit once. -/
def perform (audit : Audit) : Call → Answer × Audit
  | .beginRun runId => (.runName (audit.beginRun runId).value, (audit.beginRun runId).state)
  | .run files runId stop =>
      (.result (audit.run files runId stop).value, (audit.run files runId stop).state)
  | .processFile file => (.findings (audit.processFile file).value, (audit.processFile file).state)
  | .normalize path level keepConstraints =>
      let (form, normalizer) := audit.normalizer.normalize path level keepConstraints
      (.form form, { audit with normalizer })
  | .effectivePath name =>
      let resolved := audit.table.effectivePath name
      (.path resolved.value, { audit with table := resolved.state })
  | .routes => (.routes audit.ledger.routes, audit)

/-- Asks an audit again and again. -/
def performAll (audit : Audit) : List Call → List Answer × Audit
  | [] => ([], audit)
  | call :: rest =>
      let (answer, audit) := audit.perform call
      let (answers, audit) := audit.performAll rest
      (answer :: answers, audit)

/-- The state that an audit under given settings is in after a list of calls. -/
def after (settings : Settings) (calls : List Call) : Audit :=
  ((ofSettings settings).performAll calls).2

/-- The answers of an audit under given settings to a list of calls. -/
def answers (settings : Settings) (calls : List Call) : List Answer :=
  ((ofSettings settings).performAll calls).1

/-- What holds at the beginning and after every call holds in every state, and what then holds of
every answer holds of all of them. -/
theorem performAll_invariant {P : Audit → Prop} {Q : Answer → Prop}
    (hstep : ∀ audit call, P audit → Q (audit.perform call).1 ∧ P (audit.perform call).2)
    {audit : Audit} (h : P audit) (calls : List Call) :
    (∀ answer ∈ (audit.performAll calls).1, Q answer) ∧ P (audit.performAll calls).2 := by
  induction calls generalizing audit with
  | nil => exact ⟨fun answer hanswer => absurd hanswer List.not_mem_nil, h⟩
  | cons call rest ih =>
    obtain ⟨hanswer, hnext⟩ := hstep audit call h
    obtain ⟨hanswers, hlast⟩ := ih hnext
    refine ⟨?_, hlast⟩
    intro answer hmem
    rcases List.mem_cons.mp hmem with rfl | hmem
    · exact hanswer
    · exact hanswers answer hmem

end Audit

namespace PlainAudit

/-- Asks a plain audit once. -/
def perform (audit : PlainAudit) : Call → Answer × PlainAudit
  | .beginRun runId => (.runName (audit.beginRun runId).1, (audit.beginRun runId).2)
  | .run files runId stop =>
      (.result (audit.run files runId stop).1, (audit.run files runId stop).2)
  | .processFile file => (.findings (audit.processFile file).1, (audit.processFile file).2)
  | .normalize path level _ => (.form (canonicalForm path level), audit)
  | .effectivePath name => (.path (audit.routing.pathOf? name), audit)
  | .routes => (.routes audit.ledger.routes, audit)

/-- Asks a plain audit again and again. -/
def performAll (audit : PlainAudit) : List Call → List Answer × PlainAudit
  | [] => ([], audit)
  | call :: rest =>
      let (answer, audit) := audit.perform call
      let (answers, audit) := audit.performAll rest
      (answer :: answers, audit)

/-- The answers of a plain audit under given settings to a list of calls. -/
def answers (settings : Settings) (calls : List Call) : List Answer :=
  ((ofSettings settings).performAll calls).1

end PlainAudit

end RouteAudit
