import RouteAudit.AuditResult
import RouteAudit.RouterTable

/-!
# Audits

An audit takes the events of files one by one. It resolves the path of every route through the
routers it is registered on, enters it into the ledger under its canonical form, and reports every
registration whose key the ledger holds already.
-/

namespace RouteAudit

/-- The state of an audit. -/
structure Audit where
  settings : Settings
  normalizer : Normalizer
  table : RouterTable
  ledger : Ledger := {}
  /-- The number of names of runs that have been made up. -/
  issued : Nat := 0

/-- What has come of the files of a run so far. -/
structure RunProgress where
  findings : List Finding := []
  filesProcessed : Nat := 0
  cancelled : Bool := false
  deriving DecidableEq, Repr

namespace Audit

/-- An audit at its beginning. -/
def ofSettings (settings : Settings) : Audit where
  settings := settings
  normalizer := ⟨{ capacity := settings.formCacheSize, capacity_pos := settings.formCacheSize_pos }⟩
  table :=
    { maxDepth := settings.maxDepth
      joins := { capacity := settings.joinCacheSize, capacity_pos := settings.joinCacheSize_pos } }

/-- An audit that goes by given options. -/
def create (options : Options) : Except (List OptionProblem) Audit :=
  (Settings.ofOptions options).map ofSettings

/-- A detail that the audit reports. -/
def detail (message : String) : LogEntry :=
  ⟨.debug, .analysis, message⟩

/-- The name of the run to begin: the given one, or a made-up one if it is missing or empty. -/
def nameRun (audit : Audit) (runId : Option String) : String × Audit :=
  let madeUp :=
    (audit.settings.runName (audit.issued + 1), { audit with issued := audit.issued + 1 })
  match runId with
  | some name => if name = "" then madeUp else (name, audit)
  | none => madeUp

/-- Begins a run, or continues the current one if it is named again. Another run forgets the
registrations and the routers. -/
def beginRun (audit : Audit) (runId : Option String) : Traced Audit String :=
  let (name, audit) := audit.nameRun runId
  if audit.ledger.runId = some name then { value := name, state := audit }
  else
    let reset := audit.table.reset
    { value := name
      state := { audit with table := reset.state, ledger := audit.ledger.beginRun name }
      log := reset.log ++ [detail ("Initialized analysis run: " ++ name)] }

/-- The path at which a route is reached: below its router, if that is mounted, and below the path
in front of all routes, if there is one. -/
def effectivePath (audit : Audit) (registration : Registration) :
    Traced Audit String :=
  let underGlobal (path : String) : String :=
    match audit.settings.globalPath with
    | some above => Path.join [above, path]
    | none => path
  match registration.router with
  | none => { value := underGlobal registration.path, state := audit }
  | some router =>
      let found := audit.table.effectivePath router
      let audit := { audit with table := found.state }
      match found.value with
      | none => { value := underGlobal registration.path, state := audit, log := found.log }
      | some above =>
          let path := Path.join [above, registration.path]
          { value := underGlobal path
            state := audit
            log := found.log ++
              [detail s!"Effective path: {registration.path} -> {path}"] }

/-- The entry for the ledger that a registration makes. -/
def routeOf (audit : Audit) (file : String) (registration : Registration) :
    Traced Audit Route :=
  let method := Text.upper registration.method
  let resolved := audit.effectivePath registration
  let audit := resolved.state
  let (path, normalizer) := audit.normalizer.normalize resolved.value audit.settings.level
    audit.settings.keepConstraints
  let route : Route := {
    method, path, file
    line := registration.line
    column := registration.column
    effectivePath := resolved.value }
  { value := route
    state := { audit with normalizer }
    log := resolved.log ++
      [detail (s!"Registering route: {method} {route.effectivePath} " ++
        s!"(normalized: {path}) at {route.location}")] }

/-- What is found when a route collides with an earlier one. The path of the route is compared
with the canonical form of the earlier one; where that shows no conflict, the two share a form. -/
def collide (audit : Audit) (route first : Route) : Traced Audit (Option Finding) :=
  let (compared, normalizer) :=
    audit.normalizer.compare route.effectivePath first.path audit.settings.level
  let verdict := if compared.isConflict then compared else .sameForm
  { value := Finding.of? audit.settings route first verdict
    state := { audit with normalizer }
    log := [detail (s!"Collision: {route.method} {route.effectivePath} at {route.location}, " ++
      s!"first defined at {first.location} ({verdict.kind.label})")] }

/-- Enters a route of a file. A route without a path is passed over. -/
def register (audit : Audit) (file : String) (registration : Registration) :
    Traced Audit (Option Finding) :=
  if Text.allBlank registration.path then
    { value := none
      state := audit
      log := [detail s!"Skipped route: {Text.upper registration.method} - empty path"] }
  else
    let made := audit.routeOf file registration
    let (existing, ledger) := made.state.ledger.register made.value
    let audit := { made.state with ledger }
    match existing with
    | none => { value := none, state := audit, log := made.log }
    | some first =>
        let collision := audit.collide made.value first
        { collision with log := made.log ++ collision.log }

/-- Takes one event of a file. -/
def take (audit : Audit) (file : String) (event : Event) :
    Traced Audit (Option Finding) :=
  let routed {α : Type} (done : Traced RouterTable α) (more : List LogEntry) :
      Traced Audit (Option Finding) :=
    { value := none, state := { audit with table := done.state }, log := done.log ++ more }
  match event with
  | .routerCreated identifier callee framework =>
      let done := audit.table.createRouter identifier callee framework
      routed done (if done.value then [detail ("Detected router creation: " ++ identifier)] else [])
  | .mountAttempted callee arguments => routed (audit.table.mount callee arguments) []
  | .routerExported identifier => routed (audit.table.exportRouter identifier) []
  | .routerImported importedName localName source =>
      routed (audit.table.importRouter importedName localName source) []
  | .routeRegistered registration => audit.register file registration

/-- Takes the events of a file one after another. -/
def takeAll (audit : Audit) (file : String) : List Event → Traced Audit (List Finding)
  | [] => { value := [], state := audit }
  | event :: rest =>
      let one := audit.take file event
      let others := one.state.takeAll file rest
      { value := one.value.toList ++ others.value
        state := others.state
        log := one.log ++ others.log }

/-- Takes a file. -/
def processFile (audit : Audit) (file : SourceFile) : Traced Audit (List Finding) :=
  let begun := audit.table.beginFile file.path
  let taken := takeAll { audit with table := begun.state } file.path file.events
  { taken with log := begun.log ++ detail ("Processing file: " ++ file.path) :: taken.log }

/-- Takes files, `done` others having been taken in the run. Before every file the signal is asked
whether to stop. -/
def processFiles (audit : Audit) (stop : Nat → Bool) (done : Nat) :
    List SourceFile → Traced Audit RunProgress
  | [] => { value := {}, state := audit }
  | file :: rest =>
      if stop done then
        { value := { cancelled := true }
          state := audit
          log := [⟨.info, .analysis, s!"Analysis cancelled after {done} file(s)"⟩] }
      else
        let one := audit.processFile file
        let others := one.state.processFiles stop (done + 1) rest
        { value := {
            findings := one.value ++ others.value.findings
            filesProcessed := others.value.filesProcessed + 1
            cancelled := others.value.cancelled }
          state := others.state
          log := one.log ++ others.log }

/-- Runs over files. The signal tells, by the number of files taken, whether to stop. -/
def run (audit : Audit) (files : List SourceFile) (runId : Option String)
    (stop : Nat → Bool) : Traced Audit AuditResult :=
  let begun := audit.beginRun runId
  let processed := begun.state.processFiles stop 0 files
  { value := {
      findings := processed.value.findings
      filesProcessed := processed.value.filesProcessed
      routesRegistered := processed.state.ledger.size
      cancelled := processed.value.cancelled
      formStats := processed.state.normalizer.cache.stats
      joinStats := processed.state.table.joins.stats }
    state := processed.state
    log := begun.log ++ processed.log }

/-- The signal that never stops a run. -/
def never : Nat → Bool := fun _ => false

end Audit

end RouteAudit
