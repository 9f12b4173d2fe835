import RouteAudit.Proofs.AuditTables

/-!
# New runs

A run under another name forgets the routers and the registrations of everything before it. What an
audit goes on to remember are canonical forms, and how many names it has made up. Neither shows in
what the run comes to, which is what it comes to in an audit at its beginning.
-/

namespace RouteAudit

/-- Entering a route goes by the registrations only, not by the name of the run. -/
theorem Ledger.register_of_routes_eq {ledger other : Ledger}
    (hroutes : ledger.routes = other.routes) (route : Route) :
    (ledger.register route).1 = (other.register route).1 ∧
      (ledger.register route).2.routes = (other.register route).2.routes := by
  have hfind : ledger.find? route.key = other.find? route.key := by
    unfold Ledger.find?
    rw [hroutes]
  unfold Ledger.register
  rw [hfind]
  cases other.find? route.key with
  | none => exact ⟨rfl, congrArg (· ++ [route]) hroutes⟩
  | some existing => exact ⟨rfl, hroutes⟩

/-- Ledgers with the same registrations and the same name of the run are the same. -/
theorem Ledger.eq_of_fields_eq {ledger other : Ledger} (hroutes : ledger.routes = other.routes)
    (hrunId : ledger.runId = other.runId) : ledger = other :=
  (Ledger.mk.injEq _ _ _ _).mpr ⟨hroutes, hrunId⟩

/-- Tables with the same bounds are the same once they are reset. -/
theorem RouterTable.state_reset_eq {table other : RouterTable}
    (hdepth : table.maxDepth = other.maxDepth)
    (hcapacity : table.joins.capacity = other.joins.capacity) :
    table.reset.state = other.reset.state := by
  obtain ⟨routing, capacity, hpos, entries, hits, misses⟩ := table
  obtain ⟨otherRouting, otherCapacity, hotherPos, otherEntries, otherHits, otherMisses⟩ := other
  change routing.maxDepth = otherRouting.maxDepth at hdepth
  change capacity = otherCapacity at hcapacity
  subst hcapacity
  change RouterTable.mk { maxDepth := routing.maxDepth } _ = RouterTable.mk _ _
  rw [hdepth]
  rfl

namespace Audit

/-! ## Audits that go on alike -/

/-- Two audits go on alike: they have the same settings, know of the same routers and hold the same
registrations. The canonical forms that they remember may be different ones, but are the forms of
their paths. -/
structure Alike (audit other : Audit) : Prop where
  settings : audit.settings = other.settings
  table : audit.table = other.table
  routes : audit.ledger.routes = other.ledger.routes
  normalizer : audit.normalizer.Sound
  otherNormalizer : other.normalizer.Sound

/-- Two operations come to the same, in audits that go on alike. -/
structure Agree {α : Type} (done other : Traced Audit α) : Prop where
  value : done.value = other.value
  state : done.state.Alike other.state

variable {audit other : Audit}

/-- Audits that are alike resolve the path of a registration alike. -/
theorem Alike.effectivePath (h : audit.Alike other) (registration : Registration) :
    Agree (audit.effectivePath registration) (other.effectivePath registration) := by
  obtain ⟨hsettings, htable, hroutes, hsound, hother⟩ := h
  constructor
  case value =>
    unfold Audit.effectivePath
    rw [hsettings, htable]
    cases registration.router with
    | none => rfl
    | some router =>
      cases hfound : (other.table.effectivePath router).value <;> simp only [hfound]
  case state =>
    rw [state_effectivePath, state_effectivePath]
    cases registration.router with
    | none => exact ⟨hsettings, htable, hroutes, hsound, hother⟩
    | some router =>
      exact ⟨hsettings, congrArg (fun table => (table.effectivePath router).state) htable,
        hroutes, hsound, hother⟩

/-- Audits that are alike make the same entry of a registration. -/
theorem Alike.routeOf (h : audit.Alike other) (file : String) (registration : Registration) :
    Agree (audit.routeOf file registration) (other.routeOf file registration) := by
  obtain ⟨hvalue, hsettings, htable, hroutes, hsound, hother⟩ := h.effectivePath registration
  refine ⟨?_, hsettings, htable, hroutes, hsound.normalize _ _ _, hother.normalize _ _ _⟩
  unfold Audit.routeOf
  simp only [hvalue, hsettings, hsound.normalize_fst, hother.normalize_fst]

/-- Audits that are alike find the same at a collision. -/
theorem Alike.collide (h : audit.Alike other) (route first : Route) :
    Agree (audit.collide route first) (other.collide route first) := by
  obtain ⟨hsettings, htable, hroutes, hsound, hother⟩ := h
  refine ⟨?_, hsettings, htable, hroutes, hsound.compare _ _ _, hother.compare _ _ _⟩
  unfold Audit.collide
  simp only [hsettings, hsound.compare_fst, hother.compare_fst]

/-- Audits that are alike stay so with ledgers that hold the same registrations. -/
theorem Alike.withLedger (h : audit.Alike other) {ledger otherLedger : Ledger}
    (hroutes : ledger.routes = otherLedger.routes) :
    Alike { audit with ledger } { other with ledger := otherLedger } :=
  ⟨h.settings, h.table, hroutes, h.normalizer, h.otherNormalizer⟩

/-- Audits that are alike enter a route alike. -/
theorem Alike.register (h : audit.Alike other) (file : String) (registration : Registration) :
    Agree (audit.register file registration) (other.register file registration) := by
  unfold Audit.register
  split
  · exact ⟨rfl, h⟩
  · obtain ⟨hroute, hmade⟩ := h.routeOf file registration
    obtain ⟨hexisting, hentered⟩ :=
      Ledger.register_of_routes_eq hmade.routes (other.routeOf file registration).value
    have hafter := hmade.withLedger hentered
    simp only [hroute, hexisting]
    split
    · exact ⟨rfl, hafter⟩
    · next first _ =>
      obtain ⟨hvalue, hstate⟩ := hafter.collide (other.routeOf file registration).value first
      exact ⟨hvalue, hstate⟩

/-- Audits that are alike take an event alike. -/
theorem Alike.take (h : audit.Alike other) (file : String) (event : Event) :
    Agree (audit.take file event) (other.take file event) := by
  obtain ⟨hsettings, htable, hroutes, hsound, hother⟩ := h
  -- Where the event is for the table, the tables are asked the same.
  have htables : ∀ next : RouterTable → RouterTable,
      Alike { audit with table := next audit.table } { other with table := next other.table } :=
    fun next => ⟨hsettings, congrArg next htable, hroutes, hsound, hother⟩
  cases event with
  | routerCreated identifier callee framework =>
    exact ⟨rfl, htables fun table => (table.createRouter identifier callee framework).state⟩
  | mountAttempted callee arguments =>
    exact ⟨rfl, htables fun table => (table.mount callee arguments).state⟩
  | routerExported identifier =>
    exact ⟨rfl, htables fun table => (table.exportRouter identifier).state⟩
  | routerImported importedName localName source =>
    exact ⟨rfl, htables fun table => (table.importRouter importedName localName source).state⟩
  | routeRegistered registration =>
    exact Alike.register ⟨hsettings, htable, hroutes, hsound, hother⟩ file registration

/-- Audits that are alike take the events of a file alike. -/
theorem Alike.takeAll (h : audit.Alike other) (file : String) (events : List Event) :
    Agree (audit.takeAll file events) (other.takeAll file events) := by
  induction events generalizing audit other with
  | nil => exact ⟨rfl, h⟩
  | cons event rest ih =>
    obtain ⟨hfound, hone⟩ := h.take file event
    obtain ⟨hothers, hstate⟩ := ih hone
    refine ⟨?_, hstate⟩
    simp only [Audit.takeAll, hfound, hothers]

/-- Audits that are alike take a file alike. -/
theorem Alike.processFile (h : audit.Alike other) (file : SourceFile) :
    Agree (audit.processFile file) (other.processFile file) := by
  have hbegun : Alike { audit with table := (audit.table.beginFile file.path).state }
      { other with table := (other.table.beginFile file.path).state } :=
    ⟨h.settings, congrArg (fun table => (table.beginFile file.path).state) h.table, h.routes,
      h.normalizer, h.otherNormalizer⟩
  obtain ⟨hfound, hstate⟩ := hbegun.takeAll file.path file.events
  exact ⟨hfound, hstate⟩

/-- Audits that are alike take files alike, and are stopped alike. -/
theorem Alike.processFiles (h : audit.Alike other) (stop : Nat → Bool) (done : Nat)
    (files : List SourceFile) :
    Agree (audit.processFiles stop done files) (other.processFiles stop done files) := by
  induction files generalizing audit other done with
  | nil => exact ⟨rfl, h⟩
  | cons file rest ih =>
    unfold Audit.processFiles
    split
    · exact ⟨rfl, h⟩
    · obtain ⟨hfound, hone⟩ := h.processFile file
      obtain ⟨hothers, hstate⟩ := ih hone (done + 1)
      refine ⟨?_, hstate⟩
      simp only [hfound, hothers]

/-! ## Beginning a new run -/

/-- Beginning a run under a new name resets the table and empties the ledger. -/
theorem exists_beginRun_eq_of_new {runId : Option String}
    (hnew : audit.ledger.runId ≠ some (audit.nameRun runId).1) :
    ∃ issued, (audit.beginRun runId).state =
      { audit with
        table := audit.table.reset.state
        ledger := ⟨[], some (audit.nameRun runId).1⟩
        issued } := by
  obtain ⟨issued, hnamed⟩ := audit.exists_nameRun_eq runId
  refine ⟨issued, ?_⟩
  unfold Audit.beginRun
  simp only [hnamed, Ledger.beginRun, if_neg hnew]

/-- An audit that went on from another one is like it once both begin a new run. -/
theorem Follows.alike_beginRun (hfollows : other.Follows audit) (hsound : audit.Sound)
    (hother : other.Sound) {runId : Option String}
    (hnew : audit.ledger.runId ≠ some (audit.nameRun runId).1)
    (hotherNew : other.ledger.runId ≠ some (other.nameRun runId).1) :
    (audit.beginRun runId).state.Alike (other.beginRun runId).state := by
  obtain ⟨hsettings, calls, htable⟩ := hfollows
  have hdepth : audit.table.maxDepth = other.table.maxDepth := by
    rw [htable, RouterTable.maxDepth_performAll]
  have hcapacity : audit.table.joins.capacity = other.table.joins.capacity := by
    rw [htable, RouterTable.capacity_performAll]
  obtain ⟨issued, hbegun⟩ := exists_beginRun_eq_of_new hnew
  obtain ⟨otherIssued, hotherBegun⟩ := exists_beginRun_eq_of_new hotherNew
  rw [hbegun, hotherBegun]
  exact ⟨hsettings, RouterTable.state_reset_eq hdepth hcapacity, rfl, hsound.normalizer,
    hother.normalizer⟩

/-- Two runs come to the same, but for the numbers of remembered forms and for the names of runs:
the results, the routers with their exports and imports, the remembered joins and the
registrations are equal. -/
structure SameRun (done other : Traced Audit AuditResult) : Prop where
  findings : done.value.findings = other.value.findings
  filesProcessed : done.value.filesProcessed = other.value.filesProcessed
  routesRegistered : done.value.routesRegistered = other.value.routesRegistered
  cancelled : done.value.cancelled = other.value.cancelled
  joinStats : done.value.joinStats = other.value.joinStats
  table : done.state.table = other.state.table
  routes : done.state.ledger.routes = other.state.ledger.routes

/-- Runs that begin alike come to the same. -/
theorem Alike.sameRun {runId : Option String}
    (h : (audit.beginRun runId).state.Alike (other.beginRun runId).state)
    (files : List SourceFile) (stop : Nat → Bool) :
    SameRun (audit.run files runId stop) (other.run files runId stop) := by
  obtain ⟨hprogress, hstate⟩ := h.processFiles stop 0 files
  exact {
    findings := congrArg RunProgress.findings hprogress
    filesProcessed := congrArg RunProgress.filesProcessed hprogress
    routesRegistered := congrArg List.length hstate.routes
    cancelled := congrArg RunProgress.cancelled hprogress
    joinStats := congrArg (·.joins.stats) hstate.table
    table := hstate.table
    routes := hstate.routes }

/-- A file keeps the name of the run. -/
theorem runId_processFile (audit : Audit) (file : SourceFile) :
    (audit.processFile file).state.ledger.runId = audit.ledger.runId :=
  runId_takeAll _ file.path file.events

/-- After a run that is named, the ledger has this name. -/
theorem runId_run (audit : Audit) (files : List SourceFile) {name : String} (hname : name ≠ "")
    (stop : Nat → Bool) :
    (audit.run files (some name) stop).state.ledger.runId = some name :=
  (runId_processFiles _ stop 0 files).trans (runId_beginRun audit hname)

/-- **A new run forgets everything.** Whatever was done to an audit, a run that does not go on
under the current name comes to what it comes to in an audit at its beginning. If the run is
named, the whole ledgers are equal. -/
theorem new_run_forgets (settings : Settings) (steps : List AuditStep) (files : List SourceFile)
    (runId : Option String) (stop : Nat → Bool)
    (hnew : (reached settings steps).ledger.runId ≠
      some ((reached settings steps).nameRun runId).1) :
    SameRun ((reached settings steps).run files runId stop)
        ((ofSettings settings).run files runId stop) ∧
      ∀ name, name ≠ "" → runId = some name →
        ((reached settings steps).run files runId stop).state.ledger =
          ((ofSettings settings).run files runId stop).state.ledger := by
  obtain ⟨hfollows, hsound⟩ := follows_reached settings steps
  have hfirst : (ofSettings settings).ledger.runId ≠
      some ((ofSettings settings).nameRun runId).1 := (Option.some_ne_none _).symm
  have hsame := (hfollows.alike_beginRun hsound (sound_ofSettings settings) hnew hfirst).sameRun
    files stop
  refine ⟨hsame, ?_⟩
  rintro name hname rfl
  have hnamed := ((reached settings steps).runId_run files hname stop).trans
    ((ofSettings settings).runId_run files hname stop).symm
  exact Ledger.eq_of_fields_eq hsame.routes hnamed

/-- What is done in the example: a run over two files that is stopped after the first one, and then
the second file outside of any list. -/
def stoppedThenTaken : List AuditStep :=
  [.call (.run renamedTwice (some "one") fun n => n == 1),
    .call (.processFile
      { path := "b.js", events := [.routeRegistered { method := "GET", path := "/users/:name" }] })]

/-- After that, a run under another name over the same files finds what a first run finds. -/
theorem new_run_forgets_stoppedThenTaken :
    (reached .default stoppedThenTaken).ledger.runId ≠
        some ((reached .default stoppedThenTaken).nameRun (some "two")).1 ∧
      SameRun ((reached .default stoppedThenTaken).run renamedTwice (some "two") never)
        ((ofSettings .default).run renamedTwice (some "two") never) ∧
      ((reached .default stoppedThenTaken).run renamedTwice (some "two") never).state.ledger =
        ((ofSettings .default).run renamedTwice (some "two") never).state.ledger := by
  have hone : "one" ≠ "" := by decide
  have hcurrent : (reached .default stoppedThenTaken).ledger.runId = some "one" := by
    simp only [reached, stoppedThenTaken, List.foldl_cons, List.foldl_nil, step, perform,
      runId_processFile, runId_run _ _ hone]
  have hnew : (reached .default stoppedThenTaken).ledger.runId ≠
      some ((reached .default stoppedThenTaken).nameRun (some "two")).1 := by
    rw [hcurrent]
    simp [nameRun]
  obtain ⟨hsame, hledger⟩ :=
    new_run_forgets .default stoppedThenTaken renamedTwice (some "two") never hnew
  exact ⟨hnew, hsame, hledger "two" (by decide) rfl⟩

end Audit

end RouteAudit
