import RouteAudit.Audit
import RouteAudit.Proofs.CanonicalForms

/-!
# Audits without memories

A plain audit does what an audit does and remembers neither canonical forms nor joined paths: it
computes each of them afresh whenever it is needed. What a registration comes to is a function of
the settings and of the routing at that moment.
-/

namespace RouteAudit

namespace Routing

/-- The paths that the router is mounted under which a name means: the router of the current file,
or else the one that was exported first under the name. -/
def mountsOf (routing : Routing) (name : String) : List String :=
  match routing.local? name with
  | some (_, router) => router.mounts
  | none =>
      match routing.exportsOf name with
      | [] => []
      | first :: _ => ((routing.routers[first.router]?).map (·.mounts)).getD []

/-- The path that several mounts add up to, computed afresh; no mounts add up to none. -/
def joined? (mounts : List String) : Option String :=
  if mounts.isEmpty then none else some (Path.join mounts)

/-- The path that routes on a name appear below, computed afresh. -/
def pathOf? (routing : Routing) (name : String) : Option String :=
  joined? (routing.mountsOf name)

/-- The routing after an event of a file. Routes leave it as it is. -/
def advance (routing : Routing) : Event → Routing
  | .routerCreated identifier callee framework =>
      (routing.createRouter identifier callee framework).state
  | .mountAttempted callee arguments => (routing.mount callee arguments).state
  | .routerExported identifier => (routing.exportRouter identifier).state
  | .routerImported importedName localName source =>
      (routing.importRouter importedName localName source).state
  | .routeRegistered _ => routing

end Routing

namespace Settings

/-- The settings with the sizes of the caches left out of account. -/
def sizeless (settings : Settings) : Settings :=
  { settings with
    formCacheSize := 1
    joinCacheSize := 1
    formCacheSize_pos := Nat.one_pos
    joinCacheSize_pos := Nat.one_pos }

/-- The path at which a route is reached: below its router and below the path in front of all
routes. -/
def fullPath (settings : Settings) (routing : Routing) (registration : Registration) : String :=
  let below :=
    match registration.router.bind routing.pathOf? with
    | some above => Path.join [above, registration.path]
    | none => registration.path
  match settings.globalPath with
  | some above => Path.join [above, below]
  | none => below

/-- The entry for the ledger that a registration makes. -/
def routeOf (settings : Settings) (routing : Routing) (file : String)
    (registration : Registration) : Route where
  method := Text.upper registration.method
  path := canonicalForm (settings.fullPath routing registration) settings.level
  file := file
  line := registration.line
  column := registration.column
  effectivePath := settings.fullPath routing registration

/-- What is found when a route collides with an earlier one. -/
def findingOf? (settings : Settings) (route first : Route) : Option Finding :=
  let verdict := Verdict.between route.effectivePath first.path settings.level
  Finding.of? settings route first (if verdict.isConflict then verdict else .sameForm)

end Settings

/-- The state of an audit without memories. -/
structure PlainAudit where
  settings : Settings
  routing : Routing
  ledger : Ledger := {}
  issued : Nat := 0

namespace PlainAudit

/-- A plain audit at its beginning. It takes no account of the sizes of caches. -/
def ofSettings (settings : Settings) : PlainAudit where
  settings := settings.sizeless
  routing := { maxDepth := settings.maxDepth }

/-- The name of the run to begin: the given one, or a made-up one if it is missing or empty. -/
def nameRun (audit : PlainAudit) (runId : Option String) : String × PlainAudit :=
  let madeUp :=
    (audit.settings.runName (audit.issued + 1), { audit with issued := audit.issued + 1 })
  match runId with
  | some name => if name = "" then madeUp else (name, audit)
  | none => madeUp

/-- Begins a run, or continues the current one if it is named again. -/
def beginRun (audit : PlainAudit) (runId : Option String) : String × PlainAudit :=
  let (name, audit) := audit.nameRun runId
  if audit.ledger.runId = some name then (name, audit)
  else
    (name, { audit with
      routing := audit.routing.reset.state, ledger := audit.ledger.beginRun name })

/-- Enters a route of a file. A route without a path is passed over. -/
def register (audit : PlainAudit) (file : String) (registration : Registration) :
    Option Finding × PlainAudit :=
  if Text.allBlank registration.path then (none, audit)
  else
    let route := audit.settings.routeOf audit.routing file registration
    let (existing, ledger) := audit.ledger.register route
    let audit := { audit with ledger }
    match existing with
    | none => (none, audit)
    | some first => (audit.settings.findingOf? route first, audit)

/-- Takes one event of a file. -/
def take (audit : PlainAudit) (file : String) (event : Event) : Option Finding × PlainAudit :=
  match event with
  | .routeRegistered registration => audit.register file registration
  | other => (none, { audit with routing := audit.routing.advance other })

/-- Takes the events of a file one after another. -/
def takeAll (audit : PlainAudit) (file : String) : List Event → List Finding × PlainAudit
  | [] => ([], audit)
  | event :: rest =>
      let (found, audit) := audit.take file event
      let (others, audit) := audit.takeAll file rest
      (found.toList ++ others, audit)

/-- Takes a file. -/
def processFile (audit : PlainAudit) (file : SourceFile) : List Finding × PlainAudit :=
  takeAll { audit with routing := (audit.routing.beginFile file.path).state } file.path file.events

/-- Takes files, `done` others having been taken in the run. -/
def processFiles (audit : PlainAudit) (stop : Nat → Bool) (done : Nat) :
    List SourceFile → RunProgress × PlainAudit
  | [] => ({}, audit)
  | file :: rest =>
      if stop done then ({ cancelled := true }, audit)
      else
        let (found, audit) := audit.processFile file
        let (others, audit) := audit.processFiles stop (done + 1) rest
        ({ findings := found ++ others.findings
           filesProcessed := others.filesProcessed + 1
           cancelled := others.cancelled }, audit)

/-- Runs over files. There are no caches to report about. -/
def run (audit : PlainAudit) (files : List SourceFile) (runId : Option String)
    (stop : Nat → Bool) : AuditResult × PlainAudit :=
  let (_, audit) := audit.beginRun runId
  let (progress, audit) := audit.processFiles stop 0 files
  ({ findings := progress.findings
     filesProcessed := progress.filesProcessed
     routesRegistered := audit.ledger.size
     cancelled := progress.cancelled
     formStats := ⟨0, 0, 0⟩
     joinStats := ⟨0, 0, 0⟩ }, audit)

end PlainAudit

end RouteAudit
