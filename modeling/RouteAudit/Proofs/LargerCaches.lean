import RouteAudit.Proofs.RunLookups

/-!
# Larger caches

Two audits whose settings differ in the sizes of their caches only take the same files. They look up
the same keys, since what is looked up goes by the routers and the registrations so far. Hence the
memory of the larger size finds whatever the other one finds, look-up by look-up, and it counts at
least as many hits.
-/

namespace RouteAudit

/-! ## Audits in step -/

/-- Two plain audits go on alike: they have the same settings, know of the same routers and hold the
same registrations. -/
structure PlainAudit.Alike (audit other : PlainAudit) : Prop where
  settings : audit.settings = other.settings
  routing : audit.routing = other.routing
  routes : audit.ledger.routes = other.ledger.routes

/-- Plain audits that are alike stay so with an event. -/
theorem PlainAudit.Alike.take {audit other : PlainAudit} (h : audit.Alike other) (file : String)
    (event : Event) : (audit.take file event).2.Alike (other.take file event).2 := by
  obtain ⟨settings, routing, ledger, issued⟩ := audit
  obtain ⟨otherSettings, otherRouting, otherLedger, otherIssued⟩ := other
  obtain ⟨rfl, rfl, hroutes⟩ := h
  cases event with
  | routeRegistered registration =>
    simp only [PlainAudit.take, PlainAudit.register]
    split
    · exact ⟨rfl, rfl, hroutes⟩
    · obtain ⟨hexisting, hentered⟩ := Ledger.register_of_routes_eq hroutes
        (settings.routeOf routing file registration)
      simp only [hexisting]
      split <;> exact ⟨rfl, rfl, hentered⟩
  | _ => exact ⟨rfl, rfl, hroutes⟩

namespace Audit

/-- Two audits are in step: the memories of both are sound, and without them they are alike. -/
structure InStep (audit other : Audit) : Prop where
  sound : audit.Sound
  otherSound : other.Sound
  plain : audit.plain.Alike other.plain

variable {audit other : Audit}

/-- Operations that mirror plain ones leave audits in step if those leave plain audits alike. -/
theorem Mirrors.inStep {α : Type} {done otherDone : Traced Audit α} {plainly other : α × PlainAudit}
    (h : Mirrors done plainly) (hother : Mirrors otherDone other)
    (halike : plainly.2.Alike other.2) :
    done.state.InStep otherDone.state :=
  ⟨h.sound, hother.sound, by rwa [h.state, hother.state]⟩

/-- Audits in step stay so with an event. -/
theorem InStep.take (h : audit.InStep other) (file : String) (event : Event) :
    (audit.take file event).state.InStep (other.take file event).state :=
  (h.sound.take file event).inStep (h.otherSound.take file event) (h.plain.take file event)

/-- Audits in step go by the same level, and by the same wish about constraints. -/
theorem InStep.settings (h : audit.InStep other) :
    audit.settings.level = other.settings.level ∧
      audit.settings.keepConstraints = other.settings.keepConstraints := by
  have hsizeless : audit.settings.sizeless = other.settings.sizeless := h.plain.settings
  have hlevel : audit.settings.sizeless.level = other.settings.sizeless.level := by rw [hsizeless]
  have hkeep : audit.settings.sizeless.keepConstraints = other.settings.sizeless.keepConstraints :=
    by rw [hsizeless]
  exact ⟨hlevel, hkeep⟩

/-- Audits in step look up the same keys for the entry of a registration. -/
theorem InStep.entryLookups (h : audit.InStep other) (registration : Registration) :
    (audit.entryLookups registration).SameKeys (other.entryLookups registration) := by
  obtain ⟨hlevel, hkeep⟩ := h.settings
  have hpath : (audit.effectivePath registration).value =
      (other.effectivePath registration).value := by
    rw [(h.sound.effectivePath registration).value, (h.otherSound.effectivePath registration).value,
      h.plain.settings, h.plain.routing]
  constructor
  case forms =>
    simp only [Audit.entryLookups, hpath, hlevel, hkeep]
    exact Normalizer.map_key_lookups _ _ _ _ _
  case joins =>
    cases hrouter : registration.router with
    | none => simp [Audit.entryLookups, hrouter]
    | some router =>
      simp only [Audit.entryLookups, hrouter]
      exact RouterTable.map_key_lookups h.plain.routing router

/-- Audits in step look up the same keys for a registration. -/
theorem InStep.registrationLookups (h : audit.InStep other) (file : String)
    (registration : Registration) :
    (audit.registrationLookups file registration).SameKeys
      (other.registrationLookups file registration) := by
  unfold Audit.registrationLookups
  split
  · exact ⟨rfl, rfl⟩
  · have hmade := h.sound.routeOf file registration
    have hotherMade := h.otherSound.routeOf file registration
    have hroute : (audit.routeOf file registration).value =
        (other.routeOf file registration).value := by
      rw [hmade.value, hotherMade.value, h.plain.settings, h.plain.routing]
    have hafter := hmade.inStep hotherMade h.plain
    -- The same registrations stand before the route, so it meets the same one of them, if any.
    have hroutes : (audit.routeOf file registration).state.ledger.routes =
        (other.routeOf file registration).state.ledger.routes := hafter.plain.routes
    have hexisting := (Ledger.register_of_routes_eq hroutes
      (other.routeOf file registration).value).1
    refine (h.entryLookups registration).followedBy ?_
    rw [hroute, hexisting]
    split
    · exact ⟨rfl, rfl⟩
    · constructor
      case forms =>
        simp only [collisionLookups, hafter.settings.1]
        exact Normalizer.map_key_compareLookups _ _ _ _ _
      case joins => rfl

/-- Audits in step look up the same keys for an event. -/
theorem InStep.lookups (h : audit.InStep other) (file : String) (event : Event) :
    (audit.lookups file event).SameKeys (other.lookups file event) := by
  cases event with
  | routeRegistered registration => exact h.registrationLookups file registration
  | _ => exact ⟨rfl, rfl⟩

/-- Audits in step look up the same keys for the events of a file, and stay in step. -/
theorem InStep.takeAll (h : audit.InStep other) (file : String) (events : List Event) :
    (audit.eventsLookups file events).SameKeys (other.eventsLookups file events) ∧
      (audit.takeAll file events).state.InStep (other.takeAll file events).state := by
  induction events generalizing audit other with
  | nil => exact ⟨⟨rfl, rfl⟩, h⟩
  | cons event rest ih =>
    obtain ⟨hkeys, hstate⟩ := ih (h.take file event)
    exact ⟨(h.lookups file event).followedBy hkeys, hstate⟩

/-- Audits in step look up the same keys for a file, and stay in step. -/
theorem InStep.processFile (h : audit.InStep other) (file : SourceFile) :
    (audit.fileLookups file).SameKeys (other.fileLookups file) ∧
      (audit.processFile file).state.InStep (other.processFile file).state := by
  have hrouting : audit.table.toRouting = other.table.toRouting := h.plain.routing
  have hbegun : InStep { audit with table := (audit.table.beginFile file.path).state }
      { other with table := (other.table.beginFile file.path).state } :=
    ⟨⟨h.sound.normalizer, h.sound.table⟩, ⟨h.otherSound.normalizer, h.otherSound.table⟩,
      h.plain.settings, congrArg (fun routing => (routing.beginFile file.path).state) hrouting,
      h.plain.routes⟩
  obtain ⟨hkeys, hstate⟩ := hbegun.takeAll file.path file.events
  exact ⟨hkeys, hstate⟩

/-- Audits in step look up the same keys for files, and are stopped alike. -/
theorem InStep.filesLookups (h : audit.InStep other) (stop : Nat → Bool) (done : Nat)
    (files : List SourceFile) :
    (audit.filesLookups stop done files).SameKeys (other.filesLookups stop done files) := by
  induction files generalizing audit other done with
  | nil => exact ⟨rfl, rfl⟩
  | cons file rest ih =>
    unfold Audit.filesLookups
    split
    · exact ⟨rfl, rfl⟩
    · obtain ⟨hkeys, hstate⟩ := h.processFile file
      exact hkeys.followedBy (ih hstate _)

/-- The first run of an audit begins with nothing but its name. -/
theorem exists_beginRun_ofSettings (settings : Settings) (runId : Option String) :
    ∃ issued, ((ofSettings settings).beginRun runId).state =
      { ofSettings settings with
        table := (ofSettings settings).table.reset.state
        ledger := ⟨[], some ((ofSettings settings).nameRun runId).1⟩
        issued } := by
  have hnew : (ofSettings settings).ledger.runId ≠ some ((ofSettings settings).nameRun runId).1 :=
    nofun
  exact exists_beginRun_eq_of_new hnew

/-- Audits whose settings differ in the sizes of caches only begin their first runs in step. -/
theorem inStep_beginRun {settings otherSettings : Settings}
    (hsizes : settings.sizeless = otherSettings.sizeless) (runId otherRunId : Option String) :
    ((ofSettings settings).beginRun runId).state.InStep
      ((ofSettings otherSettings).beginRun otherRunId).state := by
  have hbegun := (sound_ofSettings settings).beginRun runId
  have hother := (sound_ofSettings otherSettings).beginRun otherRunId
  obtain ⟨issued, hstate⟩ := exists_beginRun_ofSettings settings runId
  obtain ⟨otherIssued, hotherState⟩ := exists_beginRun_ofSettings otherSettings otherRunId
  have hdepth : settings.sizeless.maxDepth = otherSettings.sizeless.maxDepth := by rw [hsizes]
  refine ⟨hbegun.sound, hother.sound, ?_⟩
  rw [hstate, hotherState]
  exact ⟨hsizes, congrArg (fun depth => ({ maxDepth := depth } : Routing)) hdepth, rfl⟩

/-! ## First runs -/

/-- The look-ups of a first run lead from empty memories to what the memories hold at its end. -/
structure ServesRun (settings : Settings) (files : List SourceFile) (runId : Option String)
    (stop : Nat → Bool) : Prop where
  forms : (Cache.empty FormKey String settings.formCacheSize settings.formCacheSize_pos).Serves
    ((ofSettings settings).runLookups files runId stop).forms
    ((ofSettings settings).run files runId stop).state.normalizer.cache
  joins : (Cache.empty (List String) String settings.joinCacheSize settings.joinCacheSize_pos).Serves
    ((ofSettings settings).runLookups files runId stop).joins
    ((ofSettings settings).run files runId stop).state.table.joins

/-- A first run makes its look-ups in empty memories. -/
theorem serves_run (settings : Settings) (files : List SourceFile) (runId : Option String)
    (stop : Nat → Bool) : ServesRun settings files runId stop := by
  obtain ⟨issued, hbegun⟩ := exists_beginRun_ofSettings settings runId
  have hforms : ((ofSettings settings).beginRun runId).state.normalizer.cache =
      Cache.empty FormKey String settings.formCacheSize settings.formCacheSize_pos := by
    rw [hbegun]
    rfl
  have hjoins : ((ofSettings settings).beginRun runId).state.table.joins =
      Cache.empty (List String) String settings.joinCacheSize settings.joinCacheSize_pos := by
    rw [hbegun]
    rfl
  have hfiles := ((ofSettings settings).beginRun runId).state.serves_processFiles stop 0 files
  constructor
  case forms =>
    rw [← hforms]
    exact hfiles.forms
  case joins =>
    rw [← hjoins]
    exact hfiles.joins

/-- **Larger caches hit more.** Two audits at their beginning whose settings differ in the sizes of
the caches only run over the same files. The same keys are looked up in both, and what is found with
the smaller cache is found with the larger one, look-up by look-up; so there are as many look-ups
and at least as many hits. This holds of the cache of forms and of the cache of joined mounts. -/
theorem larger_caches_hit_more {small large : Settings} (hsizes : small.sizeless = large.sizeless)
    (files : List SourceFile) (runId otherRunId : Option String) (stop : Nat → Bool) :
    ServesRun small files runId stop ∧ ServesRun large files otherRunId stop ∧
    (small.formCacheSize ≤ large.formCacheSize →
      HitsMore ((ofSettings small).runLookups files runId stop).forms
        ((ofSettings large).runLookups files otherRunId stop).forms
        ((ofSettings small).run files runId stop).value.formStats
        ((ofSettings large).run files otherRunId stop).value.formStats) ∧
    (small.joinCacheSize ≤ large.joinCacheSize →
      HitsMore ((ofSettings small).runLookups files runId stop).joins
        ((ofSettings large).runLookups files otherRunId stop).joins
        ((ofSettings small).run files runId stop).value.joinStats
        ((ofSettings large).run files otherRunId stop).value.joinStats) := by
  have hserves := serves_run small files runId stop
  have hlarge := serves_run large files otherRunId stop
  have hkeys := (inStep_beginRun hsizes runId otherRunId).filesLookups stop 0 files
  exact ⟨hserves, hlarge, fun hle => hserves.forms.hitsMore hlarge.forms hle hkeys.forms,
    fun hle => hserves.joins.hitsMore hlarge.joins hle hkeys.joins⟩

/-- The usual settings, with caches of one entry each. -/
def roomForOne : Settings :=
  Settings.default.sizeless

/-- The usual settings, with caches of two entries each. -/
def roomForTwo : Settings :=
  { Settings.default with
    formCacheSize := 2
    joinCacheSize := 2
    formCacheSize_pos := Nat.two_pos
    joinCacheSize_pos := Nat.two_pos }

/-- A call that mounts a router. -/
def mountCall (path router : String) : Event :=
  .mountAttempted { name := "use", receiver := some "app" }
    [⟨.literal, some path, false⟩, ⟨.identifier, some router, false⟩]

/-- A file with routes on two routers in turn. The last route is the first one again, under another
name of its parameter. -/
def inTurn : List SourceFile :=
  [{ path := "a.js", events :=
      [.routerCreated "v1" { name := "Router" } "express",
        .routerCreated "v2" { name := "Router" } "express",
        mountCall "/v1" "v1", mountCall "/v2" "v2",
        .routeRegistered { method := "get", path := "/:id", router := some "v1" },
        .routeRegistered { method := "get", path := "/:id", router := some "v2" },
        .routeRegistered { method := "post", path := "/:id", router := some "v1" },
        .routeRegistered { method := "get", path := "/:name", router := some "v1" }] }]

/-- With room for one entry, only what was looked up just before is found. With room for two, what
was looked up before another key is found as well. -/
theorem larger_caches_hit_more_inTurn :
    roomForOne.sizeless = roomForTwo.sizeless ∧
      ((ofSettings roomForOne).runLookups inTurn none never).forms.map Lookup.hit =
        [false, false, false, false, true, false] ∧
      ((ofSettings roomForTwo).runLookups inTurn (some "two") never).forms.map Lookup.hit =
        [false, false, true, false, true, false] ∧
      HitsMore ((ofSettings roomForOne).runLookups inTurn none never).forms
        ((ofSettings roomForTwo).runLookups inTurn (some "two") never).forms ⟨1, 5, 1⟩ ⟨2, 4, 2⟩ ∧
      HitsMore ((ofSettings roomForOne).runLookups inTurn none never).joins
        ((ofSettings roomForTwo).runLookups inTurn (some "two") never).joins ⟨1, 3, 1⟩
        ⟨2, 2, 2⟩ := by
  have hsizes : roomForOne.sizeless = roomForTwo.sizeless := rfl
  have hless : 1 ≤ 2 := by decide
  have hone : ((ofSettings roomForOne).run inTurn none never).value.formStats = ⟨1, 5, 1⟩ ∧
      ((ofSettings roomForOne).run inTurn none never).value.joinStats = ⟨1, 3, 1⟩ := by
    decide +kernel
  have htwo : ((ofSettings roomForTwo).run inTurn (some "two") never).value.formStats = ⟨2, 4, 2⟩ ∧
      ((ofSettings roomForTwo).run inTurn (some "two") never).value.joinStats = ⟨2, 2, 2⟩ := by
    decide +kernel
  obtain ⟨-, -, hforms, hjoins⟩ := larger_caches_hit_more hsizes inTurn none (some "two") never
  have hformStats := hforms hless
  have hjoinStats := hjoins hless
  rw [hone.1, htwo.1] at hformStats
  rw [hone.2, htwo.2] at hjoinStats
  exact ⟨hsizes, by decide +kernel, by decide +kernel, hformStats, hjoinStats⟩

end Audit

end RouteAudit
