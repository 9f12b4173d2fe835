import RouteAudit.Proofs.FindingKinds

/-!
# First registrations

The ledger of a run holds the first registration under every key, and every other registration is
reported exactly once, against the first one under its key. What the entries of a run are depends
on the settings and the files alone.
-/

namespace RouteAudit

namespace Route

/-- The routes of a list whose keys neither the routes before the list nor earlier ones in it have.
-/
def newcomersAfter (before : List Route) : List Route → List Route
  | [] => []
  | route :: rest =>
      match earliest? before route.key with
      | some _ => newcomersAfter (before ++ [route]) rest
      | none => route :: newcomersAfter (before ++ [route]) rest

/-- The other routes of the list, each with the first route under its key. -/
def refusedAfter (before : List Route) : List Route → List (Route × Route)
  | [] => []
  | route :: rest =>
      match earliest? before route.key with
      | some first => (route, first) :: refusedAfter (before ++ [route]) rest
      | none => refusedAfter (before ++ [route]) rest

/-- The routes of a list that are the first ones under their keys. -/
def newcomers (routes : List Route) : List Route :=
  newcomersAfter [] routes

/-- The routes of a list that are not the first ones under their keys, each with the first one. -/
def refused (routes : List Route) : List (Route × Route) :=
  refusedAfter [] routes

/-- Newcomers of two lists, the second after the first. -/
theorem newcomersAfter_append (before routes more : List Route) :
    newcomersAfter before (routes ++ more) =
      newcomersAfter before routes ++ newcomersAfter (before ++ routes) more := by
  induction routes generalizing before with
  | nil => simp [newcomersAfter]
  | cons route rest ih =>
    cases hfound : earliest? before route.key with
    | none => simp [newcomersAfter, hfound, ih]
    | some first => simp [newcomersAfter, hfound, ih]

/-- Refused routes of two lists, the second after the first. -/
theorem refusedAfter_append (before routes more : List Route) :
    refusedAfter before (routes ++ more) =
      refusedAfter before routes ++ refusedAfter (before ++ routes) more := by
  induction routes generalizing before with
  | nil => simp [refusedAfter]
  | cons route rest ih =>
    cases hfound : earliest? before route.key with
    | none => simp [refusedAfter, hfound, ih]
    | some first => simp [refusedAfter, hfound, ih]

/-- Every route of a list is a newcomer or refused. -/
theorem length_newcomersAfter_add_refusedAfter (before routes : List Route) :
    (newcomersAfter before routes).length + (refusedAfter before routes).length =
      routes.length := by
  induction routes generalizing before with
  | nil => rfl
  | cons route rest ih =>
    have hrest := ih (before ++ [route])
    cases hfound : earliest? before route.key with
    | none =>
      simp only [newcomersAfter, refusedAfter, hfound, List.length_cons]
      omega
    | some first =>
      simp only [newcomersAfter, refusedAfter, hfound, List.length_cons]
      omega

/-- Looking for the first route under a key, one need not look at routes that others precede. -/
theorem earliest?_newcomersAfter (before routes : List Route) (key : String) :
    earliest? (before ++ newcomersAfter before routes) key = earliest? (before ++ routes) key := by
  induction routes generalizing before with
  | nil => rfl
  | cons route rest ih =>
    have hrest := ih (before ++ [route])
    cases hfound : earliest? before route.key with
    | none => simpa [newcomersAfter, hfound] using hrest
    | some first =>
      -- An earlier route has the key already, so no search stops at this one.
      have hskip : ∀ others, earliest? (before ++ others) key =
          earliest? (before ++ route :: others) key := by
        intro others
        by_cases hkey : route.key = key
        · have hknown : before.find? (fun earlier => earlier.key == key) = some first := by
            rw [← hkey]
            exact hfound
          simp [earliest?, List.find?_append, hknown]
        · simp [earliest?, List.find?_append, hkey]
      simp only [newcomersAfter, hfound]
      rw [hskip]
      simpa using hrest

/-- The first route under a key is the newcomer under it. -/
theorem earliest?_newcomers (routes : List Route) (key : String) :
    earliest? (newcomers routes) key = earliest? routes key :=
  earliest?_newcomersAfter [] routes key

end Route

/-- The route of a finding and the earlier one. -/
def Finding.collision (finding : Finding) : Route × Route :=
  (finding.route, finding.first)

/-! ## The entries of files -/

/-- The routing after a file. -/
def Routing.pass (routing : Routing) (file : SourceFile) : Routing :=
  file.events.foldl Routing.advance (routing.beginFile file.path).state

namespace Settings

/-- The entry that an event makes, if it registers a route whose path is not blank. -/
def entry? (settings : Settings) (routing : Routing) (file : String) : Event → Option Route
  | .routeRegistered registration =>
      if Text.allBlank registration.path then none
      else some (settings.routeOf routing file registration)
  | _ => none

/-- The entries that the events of a file make, in order. -/
def entriesOf (settings : Settings) (file : String) (routing : Routing) : List Event → List Route
  | [] => []
  | event :: rest =>
      (settings.entry? routing file event).toList ++
        settings.entriesOf file (routing.advance event) rest

/-- The entries that files make, in order. -/
def entries (settings : Settings) (routing : Routing) : List SourceFile → List Route
  | [] => []
  | file :: rest =>
      settings.entriesOf file.path (routing.beginFile file.path).state file.events ++
        settings.entries (routing.pass file) rest

/-- The entries of a file are the same under settings that make the same entry of a registration.
-/
theorem entriesOf_congr {settings other : Settings} (h : settings.routeOf = other.routeOf)
    (file : String) (routing : Routing) (events : List Event) :
    settings.entriesOf file routing events = other.entriesOf file routing events := by
  have hentry : settings.entry? = other.entry? := by
    unfold entry?
    rw [h]
  induction events generalizing routing with
  | nil => rfl
  | cons event rest ih => rw [entriesOf, entriesOf, hentry, ih]

/-- The entries of files are the same under settings that make the same entry of a registration. -/
theorem entries_congr {settings other : Settings} (h : settings.routeOf = other.routeOf)
    (routing : Routing) (files : List SourceFile) :
    settings.entries routing files = other.entries routing files := by
  induction files generalizing routing with
  | nil => rfl
  | cons file rest ih => rw [entries, entries, entriesOf_congr h, ih]

/-- The entries of files do not depend on the sizes of caches. -/
theorem entries_sizeless (settings : Settings) (routing : Routing) (files : List SourceFile) :
    settings.sizeless.entries routing files = settings.entries routing files := by
  have hroute : settings.sizeless.routeOf = settings.routeOf := rfl
  exact entries_congr hroute routing files

end Settings

/-! ## Plain audits -/

namespace PlainAudit

/-- A plain audit under given settings that has entered given routes, one after another. -/
structure Entered (settings : Settings) (routes : List Route) (audit : PlainAudit) : Prop where
  settings_eq : audit.settings = settings
  ledger : audit.ledger.routes = Route.newcomers routes
  canonical : ∀ route ∈ routes, route.Canonical settings.level

/-- What comes of entries that are made after given routes. -/
structure Enters (settings : Settings) (before entries : List Route) (routing : Routing)
    (found : List Finding) (audit : PlainAudit) : Prop where
  findings : found.map Finding.collision = Route.refusedAfter before entries
  entered : audit.Entered settings (before ++ entries)
  routing_eq : audit.routing = routing

variable {settings : Settings} {before : List Route} {audit : PlainAudit}

/-- The registration that the ledger gives for a key is the first one under it. -/
theorem Entered.find? (h : audit.Entered settings before) (key : String) :
    audit.ledger.find? key = Route.earliest? before key := by
  have hfind := Route.earliest?_newcomers before key
  rw [← h.ledger] at hfind
  exact hfind

/-- Without further entries nothing changes. -/
theorem Entered.append_nil (h : audit.Entered settings before) :
    audit.Entered settings (before ++ []) := by
  rwa [List.append_nil]

/-- With one more canonical route, all are canonical. -/
theorem Entered.canonical_append (h : audit.Entered settings before) {route : Route}
    (hroute : route.Canonical settings.level) :
    ∀ other ∈ before ++ [route], other.Canonical settings.level := by
  intro other hmem
  rcases List.mem_append.mp hmem with hold | hnew
  · exact h.canonical other hold
  · rwa [List.mem_singleton.mp hnew]

/-- A registration is entered if it is a newcomer, and reported otherwise. -/
theorem Entered.register (h : audit.Entered settings before) (file : String)
    (registration : Registration) :
    Enters settings before
      (settings.entry? audit.routing file (.routeRegistered registration)).toList audit.routing
      (audit.register file registration).1.toList (audit.register file registration).2 := by
  have hroute := settings.canonical_routeOf audit.routing file registration
  unfold PlainAudit.register Settings.entry?
  by_cases hblank : Text.allBlank registration.path
  · simp only [if_pos hblank]
    exact ⟨rfl, h.append_nil, rfl⟩
  · simp only [if_neg hblank, h.settings_eq, Ledger.register, h.find?]
    generalize settings.routeOf audit.routing file registration = route at hroute
    have hledger := Route.newcomersAfter_append [] before [route]
    cases hfound : Route.earliest? before route.key with
    | none =>
      refine ⟨by simp [Route.refusedAfter, hfound], ⟨rfl, ?_, ?_⟩, rfl⟩
      · simpa [Route.newcomers, Route.newcomersAfter, hfound, h.ledger] using hledger.symm
      · exact h.canonical_append hroute
    | some first =>
      obtain ⟨hmem, hkey⟩ := Route.mem_of_earliest? hfound
      have hfinding :=
        settings.findingOf?_of_key_eq hroute (h.canonical first hmem) hkey.symm
      refine ⟨?_, ⟨rfl, ?_, ?_⟩, rfl⟩
      · simp [Route.refusedAfter, hfound, hfinding, Finding.collision, Finding.duplicate]
      · simpa [Route.newcomers, Route.newcomersAfter, hfound, h.ledger] using hledger.symm
      · exact h.canonical_append hroute

/-- An event enters its route if it is a newcomer, and reports it otherwise. -/
theorem Entered.take (h : audit.Entered settings before) (file : String) (event : Event) :
    Enters settings before (settings.entry? audit.routing file event).toList
      (audit.routing.advance event) (audit.take file event).1.toList
      (audit.take file event).2 := by
  have hsame := h.append_nil
  cases event with
  | routeRegistered registration => exact h.register file registration
  | _ => exact ⟨rfl, ⟨hsame.settings_eq, hsame.ledger, hsame.canonical⟩, rfl⟩

/-- The events of a file enter the newcomers among their routes and report the others. -/
theorem Entered.takeAll (h : audit.Entered settings before) (file : String)
    (events : List Event) :
    Enters settings before (settings.entriesOf file audit.routing events)
      (events.foldl Routing.advance audit.routing) (audit.takeAll file events).1
      (audit.takeAll file events).2 := by
  induction events generalizing audit before with
  | nil => exact ⟨rfl, h.append_nil, rfl⟩
  | cons event rest ih =>
    obtain ⟨hfirst, hentered, hrouting⟩ := h.take file event
    obtain ⟨hothers, hlast, hend⟩ := ih hentered
    rw [hrouting] at hothers hlast hend
    rw [List.append_assoc] at hlast
    refine ⟨?_, hlast, hend⟩
    simp only [PlainAudit.takeAll, Settings.entriesOf, List.map_append, hfirst, hothers,
      Route.refusedAfter_append]

/-- A file enters the newcomers among its routes and reports the others. -/
theorem Entered.processFile (h : audit.Entered settings before) (file : SourceFile) :
    Enters settings before
      (settings.entriesOf file.path (audit.routing.beginFile file.path).state file.events)
      (audit.routing.pass file) (audit.processFile file).1 (audit.processFile file).2 := by
  have hbegun : Entered settings before
      { audit with routing := (audit.routing.beginFile file.path).state } :=
    ⟨h.settings_eq, h.ledger, h.canonical⟩
  exact hbegun.takeAll file.path file.events

/-- Files enter the newcomers among their routes and report the others. -/
theorem Entered.processFiles (h : audit.Entered settings before) (done : Nat)
    (files : List SourceFile) :
    ((audit.processFiles Audit.never done files).1.findings.map Finding.collision =
        Route.refusedAfter before (settings.entries audit.routing files)) ∧
      (audit.processFiles Audit.never done files).2.Entered settings
        (before ++ settings.entries audit.routing files) := by
  induction files generalizing audit before done with
  | nil => exact ⟨rfl, h.append_nil⟩
  | cons file rest ih =>
    obtain ⟨hfirst, hentered, hrouting⟩ := h.processFile file
    obtain ⟨hothers, hlast⟩ := ih hentered (done + 1)
    rw [hrouting] at hothers hlast
    simp only [PlainAudit.processFiles, Audit.never, Bool.false_eq_true, if_false] at hothers ⊢
    rw [List.append_assoc] at hlast
    refine ⟨?_, hlast⟩
    simp only [Settings.entries, List.map_append, hfirst, hothers, Route.refusedAfter_append]

/-- Naming a run may make up a name, and changes nothing else. -/
theorem exists_nameRun_eq (audit : PlainAudit) (runId : Option String) :
    ∃ issued, (audit.nameRun runId).2 = { audit with issued } := by
  cases runId with
  | none => exact ⟨audit.issued + 1, rfl⟩
  | some name =>
    unfold nameRun
    by_cases hname : name = ""
    · simp only [if_pos hname]
      exact ⟨audit.issued + 1, rfl⟩
    · simp only [if_neg hname]
      exact ⟨audit.issued, rfl⟩

/-- A run under another name than the current one begins with no routers and no entries. -/
theorem entered_beginRun (hsettings : audit.settings = settings) {runId : Option String}
    (hnew : audit.ledger.runId ≠ some (audit.nameRun runId).1) :
    (audit.beginRun runId).2.Entered settings [] ∧
      (audit.beginRun runId).2.routing = { maxDepth := audit.routing.maxDepth } := by
  obtain ⟨issued, hnamed⟩ := audit.exists_nameRun_eq runId
  unfold beginRun
  simp only [hnamed, if_neg hnew, Ledger.beginRun]
  exact ⟨⟨hsettings, rfl, List.forall_mem_nil _⟩, rfl⟩

/-- A run under another name than the current one enters the newcomers among the routes of its
files and reports the others. -/
theorem run_refused (hsettings : audit.settings = settings) {runId : Option String}
    (hnew : audit.ledger.runId ≠ some (audit.nameRun runId).1) (files : List SourceFile) :
    (audit.run files runId Audit.never).2.ledger.routes =
        Route.newcomers (settings.entries { maxDepth := audit.routing.maxDepth } files) ∧
      (audit.run files runId Audit.never).1.findings.map Finding.collision =
        Route.refused (settings.entries { maxDepth := audit.routing.maxDepth } files) := by
  obtain ⟨hbegun, hrouting⟩ := entered_beginRun hsettings hnew
  obtain ⟨hfindings, hentered⟩ := hbegun.processFiles 0 files
  rw [hrouting] at hfindings hentered
  exact ⟨hentered.ledger, hfindings⟩

end PlainAudit

/-- **Every refused registration is reported.** After a run under another name than the current
one, from every state that calls lead to, the ledger holds the first of the entries under each key,
and the findings are the others, each against the first entry under its key. -/
theorem Audit.run_reports_refused (settings : Settings) (calls : List Call)
    (files : List SourceFile) (runId : Option String)
    (hnew : (after settings calls).ledger.runId ≠ some ((after settings calls).nameRun runId).1) :
    ((after settings calls).run files runId never).state.ledger.routes =
        Route.newcomers (settings.entries { maxDepth := settings.maxDepth } files) ∧
      ((after settings calls).run files runId never).value.findings.map Finding.collision =
        Route.refused (settings.entries { maxDepth := settings.maxDepth } files) ∧
      ((after settings calls).run files runId never).value.routesRegistered +
          ((after settings calls).run files runId never).value.findings.length =
        (settings.entries { maxDepth := settings.maxDepth } files).length := by
  have h := (orderly_after settings calls).2
  have hname := (h.sound.nameRun runId).1
  obtain ⟨hresult, hstate, -⟩ := h.sound.run files runId never
  obtain ⟨hledger, hfindings⟩ :=
    PlainAudit.run_refused h.plain_settings (by rw [← hname]; exact hnew) files
  have hdepth : (after settings calls).plain.routing.maxDepth = settings.maxDepth := h.maxDepth_eq
  rw [Settings.entries_sizeless, hdepth, ← hstate] at hledger
  have hsame : ((after settings calls).run files runId never).value.findings =
      ((after settings calls).plain.run files runId never).1.findings :=
    congrArg Answer.allFindings hresult
  rw [Settings.entries_sizeless, hdepth, ← hsame] at hfindings
  refine ⟨hledger, hfindings, ?_⟩
  have hregistered : ((after settings calls).run files runId never).value.routesRegistered =
      (Route.newcomers (settings.entries { maxDepth := settings.maxDepth } files)).length :=
    congrArg List.length hledger
  have hreported : ((after settings calls).run files runId never).value.findings.length =
      (Route.refused (settings.entries { maxDepth := settings.maxDepth } files)).length := by
    rw [← hfindings, List.length_map]
  rw [hregistered, hreported]
  exact Route.length_newcomersAfter_add_refusedAfter [] _

/-- Of two entries under one key, the second is reported against the first. -/
theorem Audit.run_reports_refused_renamed :
    (after .default []).ledger.runId ≠ some ((after .default []).nameRun (some "one")).1 ∧
      ((after .default []).run renamedTwice (some "one") never).state.ledger.routes =
        Route.newcomers (Settings.default.entries { maxDepth := 5 } renamedTwice) ∧
      ((after .default []).run renamedTwice (some "one") never).value.findings.map
          Finding.collision =
        Route.refused (Settings.default.entries { maxDepth := 5 } renamedTwice) ∧
      (Route.refused (Settings.default.entries { maxDepth := 5 } renamedTwice)).length = 1 := by
  have hnew : (after .default []).ledger.runId ≠
      some ((after .default []).nameRun (some "one")).1 := nofun
  obtain ⟨hledger, hfindings, -⟩ := run_reports_refused .default [] renamedTwice (some "one") hnew
  exact ⟨hnew, hledger, hfindings, by decide +kernel⟩

end RouteAudit
