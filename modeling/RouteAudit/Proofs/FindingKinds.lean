import RouteAudit.Proofs.CacheTransparency
import RouteAudit.Proofs.KeyCollisions

/-!
# Which findings there are

In every state that calls lead to, the ledger holds canonical paths only. So every finding of every
answer is a duplicate with the severity of the settings, and it makes no difference to any answer
whether overlaps are reported.
-/

namespace RouteAudit

/-- Mounting a router keeps the bound on the depth of mounts, also where it is refused. -/
theorem Routing.maxDepth_mountUnder (routing : Routing) (identifier path : String) :
    (routing.mountUnder identifier path).state.maxDepth = routing.maxDepth := by
  unfold mountUnder
  cases routing.local? identifier with
  | none => rfl
  | some entry =>
    by_cases hroot : Path.isRoot (some path)
    · simp only [if_pos hroot]
    · simp only [if_neg hroot]
      split <;> rfl

/-- The routing keeps its bound on the depth of mounts, whatever happens. -/
theorem Routing.maxDepth_advance (routing : Routing) (event : Event) :
    (routing.advance event).maxDepth = routing.maxDepth := by
  cases event with
  | routerCreated identifier callee framework =>
    simp only [advance, createRouter]
    split <;> rfl
  | mountAttempted callee arguments =>
    simp only [advance, mount]
    split
    · exact maxDepth_mountUnder routing _ _
    · rfl
  | routerExported identifier =>
    simp only [advance, exportRouter]
    split <;> rfl
  | routerImported importedName localName source => rfl
  | routeRegistered registration => rfl

namespace Audit

/-- An audit under given settings, with sound memories and canonical paths in its ledger. -/
structure Orderly (settings : Settings) (audit : Audit) : Prop where
  settings_eq : audit.settings = settings
  maxDepth_eq : audit.table.maxDepth = settings.maxDepth
  sound : audit.Sound
  canonical : ∀ route ∈ audit.ledger.routes, route.Canonical settings.level

/-- The audit with overlaps reported or not. -/
def withOverlap (warn : Bool) (audit : Audit) : Audit :=
  { audit with settings := { audit.settings with warnOnOverlap := warn } }

/-- What an operation comes to, and what it comes to with overlaps treated otherwise. -/
structure Steady {α : Type} (settings : Settings) (warn : Bool) (found : α → List Finding)
    (done other : Traced Audit α) : Prop where
  value : other.value = done.value
  state : other.state = done.state.withOverlap warn
  orderly : Orderly settings done.state
  duplicates : ∀ finding ∈ found done.value, finding.IsDuplicate settings

/-- An audit is orderly at its beginning. -/
theorem orderly_ofSettings (settings : Settings) : Orderly settings (ofSettings settings) where
  settings_eq := rfl
  maxDepth_eq := rfl
  sound := sound_ofSettings settings
  canonical := fun _ hroute => absurd hroute List.not_mem_nil

/-! ## Registrations -/

/-- Paths are resolved in the same way whether overlaps are reported or not. -/
theorem effectivePath_withOverlap (audit : Audit) (warn : Bool) (registration : Registration) :
    ((audit.withOverlap warn).effectivePath registration).value =
        (audit.effectivePath registration).value ∧
      ((audit.withOverlap warn).effectivePath registration).state =
        (audit.effectivePath registration).state.withOverlap warn := by
  unfold effectivePath
  cases registration.router with
  | none => exact ⟨rfl, rfl⟩
  | some router =>
    have htable : (audit.withOverlap warn).table = audit.table := rfl
    simp only [htable]
    cases (audit.table.effectivePath router).value with
    | none => exact ⟨rfl, rfl⟩
    | some above => exact ⟨rfl, rfl⟩

/-- Entries are made in the same way whether overlaps are reported or not. -/
theorem routeOf_withOverlap (audit : Audit) (warn : Bool) (file : String)
    (registration : Registration) :
    ((audit.withOverlap warn).routeOf file registration).value =
        (audit.routeOf file registration).value ∧
      ((audit.withOverlap warn).routeOf file registration).state =
        (audit.routeOf file registration).state.withOverlap warn := by
  obtain ⟨hvalue, hstate⟩ := effectivePath_withOverlap audit warn registration
  unfold routeOf
  simp only [hvalue, hstate]
  exact ⟨rfl, rfl⟩

variable {settings : Settings} {audit : Audit}

/-- With overlaps treated otherwise, an audit is as orderly. -/
theorem Orderly.withOverlap (h : Orderly settings audit) (warn : Bool) :
    Orderly { settings with warnOnOverlap := warn } (audit.withOverlap warn) where
  settings_eq := by rw [← h.settings_eq]; rfl
  maxDepth_eq := h.maxDepth_eq
  sound := ⟨h.sound.normalizer, h.sound.table⟩
  canonical := h.canonical

/-- The settings with which findings are computed afresh. -/
theorem Orderly.plain_settings (h : Orderly settings audit) :
    audit.plain.settings = settings.sizeless := by
  rw [← h.settings_eq]
  rfl

/-- Resolving the path of a registration keeps an audit orderly. -/
theorem Orderly.effectivePath (h : Orderly settings audit) (registration : Registration) :
    Orderly settings (audit.effectivePath registration).state := by
  obtain ⟨-, hplain, hsound⟩ := h.sound.effectivePath registration
  have hdepth : (audit.effectivePath registration).state.table.maxDepth = audit.table.maxDepth :=
    congrArg (·.routing.maxDepth) hplain
  have hledger : (audit.effectivePath registration).state.ledger = audit.ledger :=
    congrArg PlainAudit.ledger hplain
  refine ⟨?_, hdepth.trans h.maxDepth_eq, hsound, by rw [hledger]; exact h.canonical⟩
  rw [← h.settings_eq]
  unfold Audit.effectivePath
  cases registration.router with
  | none => rfl
  | some router => cases hvalue : (audit.table.effectivePath router).value <;> simp only [hvalue]

/-- Making the entry of a registration keeps an audit orderly, and the entry is canonical. -/
theorem Orderly.routeOf (h : Orderly settings audit) (file : String)
    (registration : Registration) :
    Orderly settings (audit.routeOf file registration).state ∧
      (audit.routeOf file registration).value.Canonical settings.level := by
  obtain ⟨hvalue, -, hsound⟩ := h.sound.routeOf file registration
  have hresolved := h.effectivePath registration
  refine ⟨⟨hresolved.settings_eq, hresolved.maxDepth_eq, hsound, hresolved.canonical⟩, ?_⟩
  rw [hvalue, h.plain_settings]
  exact Settings.canonical_routeOf _ _ _ _

/-- At a collision a duplicate is found. -/
theorem Orderly.value_collide (h : Orderly settings audit) {route first : Route}
    (hroute : route.Canonical settings.level) (hfirst : first.Canonical settings.level)
    (hkey : route.key = first.key) :
    (audit.collide route first).value =
      some (.duplicate settings.duplicates settings.level route first) := by
  have hvalue := (h.sound.collide route first).value
  rw [h.plain_settings] at hvalue
  exact hvalue.trans (settings.sizeless.findingOf?_of_key_eq hroute hfirst hkey)

/-- At a collision the same is found whether overlaps are reported or not. -/
theorem Orderly.collide (h : Orderly settings audit) (warn : Bool) {route first : Route}
    (hroute : route.Canonical settings.level) (hfirst : first.Canonical settings.level)
    (hkey : route.key = first.key) :
    Steady settings warn Option.toList (audit.collide route first)
      ((audit.withOverlap warn).collide route first) := by
  have hvalue := h.value_collide hroute hfirst hkey
  have hother := (h.withOverlap warn).value_collide hroute hfirst hkey
  have hsound := (h.sound.collide route first).sound
  refine ⟨hother.trans hvalue.symm, rfl, ⟨h.settings_eq, h.maxDepth_eq, hsound, h.canonical⟩, ?_⟩
  intro finding hfinding
  rw [hvalue, Option.toList_some, List.mem_singleton] at hfinding
  rw [hfinding]
  rfl

/-- Entering a route keeps an audit orderly, and what is found is a duplicate. -/
theorem Orderly.register (h : Orderly settings audit) (warn : Bool) (file : String)
    (registration : Registration) :
    Steady settings warn Option.toList (audit.register file registration)
      ((audit.withOverlap warn).register file registration) := by
  obtain ⟨hvalue, hstate⟩ := routeOf_withOverlap audit warn file registration
  obtain ⟨hmade, hroute⟩ := h.routeOf file registration
  unfold Audit.register
  split
  · exact ⟨rfl, rfl, h, List.forall_mem_nil _⟩
  · have hledger : (audit.routeOf file registration).state.ledger =
        ((audit.routeOf file registration).state.withOverlap warn).ledger := rfl
    simp only [hvalue, hstate, ← hledger]
    unfold Ledger.register
    cases hfound : (audit.routeOf file registration).state.ledger.find?
      (audit.routeOf file registration).value.key with
    | none =>
      refine ⟨rfl, rfl, ⟨hmade.settings_eq, hmade.maxDepth_eq, ⟨hmade.sound.1, hmade.sound.2⟩, ?_⟩,
        List.forall_mem_nil _⟩
      intro route hmem
      rcases List.mem_append.mp hmem with hold | hnew
      · exact hmade.canonical route hold
      · rwa [List.mem_singleton.mp hnew]
    | some first =>
      obtain ⟨hmem, hkey⟩ := Route.mem_of_earliest? hfound
      have hcollision := hmade.collide warn hroute (hmade.canonical first hmem) hkey.symm
      exact ⟨hcollision.value, hcollision.state, hcollision.orderly, hcollision.duplicates⟩

/-! ## Events and files -/

/-- An event keeps an audit orderly, and what is found is a duplicate. -/
theorem Orderly.take (h : Orderly settings audit) (warn : Bool) (file : String) (event : Event) :
    Steady settings warn Option.toList (audit.take file event)
      ((audit.withOverlap warn).take file event) := by
  have hdepth := Routing.maxDepth_advance audit.table.toRouting event
  have hsound := (h.sound.take file event).sound
  cases event with
  | routeRegistered registration => exact h.register warn file registration
  | _ =>
    exact ⟨rfl, rfl, ⟨h.settings_eq, hdepth.trans h.maxDepth_eq, hsound, h.canonical⟩,
      List.forall_mem_nil _⟩

/-- The events of a file keep an audit orderly, and all that is found are duplicates. -/
theorem Orderly.takeAll (h : Orderly settings audit) (warn : Bool) (file : String)
    (events : List Event) :
    Steady settings warn id (audit.takeAll file events)
      ((audit.withOverlap warn).takeAll file events) := by
  induction events generalizing audit with
  | nil => exact ⟨rfl, rfl, h, List.forall_mem_nil _⟩
  | cons event rest ih =>
    obtain ⟨hvalue, hstate, hnext, hfirst⟩ := h.take warn file event
    obtain ⟨hvalues, hlast, hkept, hothers⟩ := ih hnext
    rw [← hstate] at hvalues hlast
    refine ⟨?_, hlast, hkept, ?_⟩
    · simp only [Audit.takeAll, hvalue, hvalues]
    · intro finding hfinding
      rcases List.mem_append.mp hfinding with hmem | hmem
      · exact hfirst finding hmem
      · exact hothers finding hmem

/-- A file keeps an audit orderly, and all that is found are duplicates. -/
theorem Orderly.processFile (h : Orderly settings audit) (warn : Bool) (file : SourceFile) :
    Steady settings warn id (audit.processFile file)
      ((audit.withOverlap warn).processFile file) := by
  have hbegun : Orderly settings
      { audit with table := (audit.table.beginFile file.path).state } :=
    ⟨h.settings_eq, h.maxDepth_eq, ⟨h.sound.normalizer, h.sound.table⟩, h.canonical⟩
  obtain ⟨hvalue, hstate, hkept, hfound⟩ := hbegun.takeAll warn file.path file.events
  exact ⟨hvalue, hstate, hkept, hfound⟩

/-- Files keep an audit orderly wherever a signal stops it, and all that is found are duplicates. -/
theorem Orderly.processFiles (h : Orderly settings audit) (warn : Bool) (stop : Nat → Bool)
    (done : Nat) (files : List SourceFile) :
    Steady settings warn RunProgress.findings (audit.processFiles stop done files)
      ((audit.withOverlap warn).processFiles stop done files) := by
  induction files generalizing audit done with
  | nil => exact ⟨rfl, rfl, h, List.forall_mem_nil _⟩
  | cons file rest ih =>
    unfold Audit.processFiles
    split
    · exact ⟨rfl, rfl, h, List.forall_mem_nil _⟩
    · obtain ⟨hvalue, hstate, hnext, hfirst⟩ := h.processFile warn file
      obtain ⟨hvalues, hlast, hkept, hothers⟩ := ih hnext (done + 1)
      rw [← hstate] at hvalues hlast
      refine ⟨?_, hlast, hkept, ?_⟩
      · simp only [hvalue, hvalues]
      · intro finding hfinding
        rcases List.mem_append.mp hfinding with hmem | hmem
        · exact hfirst finding hmem
        · exact hothers finding hmem

/-! ## Runs and calls -/

/-- Runs are named in the same way whether overlaps are reported or not. -/
theorem nameRun_withOverlap (audit : Audit) (warn : Bool) (runId : Option String) :
    (audit.withOverlap warn).nameRun runId =
      ((audit.nameRun runId).1, (audit.nameRun runId).2.withOverlap warn) := by
  cases runId with
  | none => rfl
  | some name =>
    unfold nameRun
    by_cases hname : name = ""
    · simp only [if_pos hname]
      rfl
    · simp only [if_neg hname]

/-- Naming a run keeps an audit orderly. -/
theorem Orderly.nameRun (h : Orderly settings audit) (runId : Option String) :
    Orderly settings (audit.nameRun runId).2 := by
  have hsound := (h.sound.nameRun runId).2.2
  cases runId with
  | none => exact ⟨h.settings_eq, h.maxDepth_eq, hsound, h.canonical⟩
  | some name =>
    unfold Audit.nameRun at hsound ⊢
    by_cases hname : name = ""
    · simp only [if_pos hname] at hsound ⊢
      exact ⟨h.settings_eq, h.maxDepth_eq, hsound, h.canonical⟩
    · simp only [if_neg hname]
      exact h

/-- Beginning a run keeps an audit orderly: the ledger is kept, or it is empty. -/
theorem Orderly.beginRun (h : Orderly settings audit) (warn : Bool) (runId : Option String) :
    Steady settings warn (fun _ => []) (audit.beginRun runId)
      ((audit.withOverlap warn).beginRun runId) := by
  have hsound := (h.sound.beginRun runId).sound
  have hnamed := h.nameRun runId
  have hledger : ((audit.nameRun runId).2.withOverlap warn).ledger =
      (audit.nameRun runId).2.ledger := rfl
  unfold Audit.beginRun at hsound ⊢
  simp only [nameRun_withOverlap, hledger] at hsound ⊢
  split
  · exact ⟨rfl, rfl, hnamed, List.forall_mem_nil _⟩
  · next hother =>
    rw [if_neg hother] at hsound
    refine ⟨rfl, rfl, ⟨hnamed.settings_eq, hnamed.maxDepth_eq, hsound, ?_⟩, List.forall_mem_nil _⟩
    intro route hmem
    simp only [Ledger.beginRun, if_neg hother] at hmem
    exact absurd hmem List.not_mem_nil

/-- A run keeps an audit orderly, and all that is found are duplicates. -/
theorem Orderly.run (h : Orderly settings audit) (warn : Bool) (files : List SourceFile)
    (runId : Option String) (stop : Nat → Bool) :
    Steady settings warn AuditResult.findings (audit.run files runId stop)
      ((audit.withOverlap warn).run files runId stop) := by
  obtain ⟨-, hbegun, hfresh, -⟩ := h.beginRun warn runId
  obtain ⟨hvalue, hstate, hkept, hfound⟩ := hfresh.processFiles warn stop 0 files
  rw [← hbegun] at hvalue hstate
  refine ⟨?_, hstate, hkept, hfound⟩
  simp only [Audit.run, hvalue, hstate]
  rfl

/-- Every call keeps an audit orderly, tells of duplicates only, and is answered in the same way
whether overlaps are reported or not. -/
theorem Orderly.perform (h : Orderly settings audit) (warn : Bool) (call : Call) :
    ((audit.withOverlap warn).perform call).1 = (audit.perform call).1 ∧
      ((audit.withOverlap warn).perform call).2 = (audit.perform call).2.withOverlap warn ∧
      Orderly settings (audit.perform call).2 ∧
      ∀ finding ∈ (audit.perform call).1.allFindings, finding.IsDuplicate settings := by
  have hsound := (h.sound.perform call).2.2
  cases call with
  | beginRun runId =>
    obtain ⟨hvalue, hstate, hkept, -⟩ := h.beginRun warn runId
    exact ⟨congrArg Answer.runName hvalue, hstate, hkept, List.forall_mem_nil _⟩
  | run files runId stop =>
    obtain ⟨hvalue, hstate, hkept, hfound⟩ := h.run warn files runId stop
    exact ⟨congrArg Answer.result hvalue, hstate, hkept, hfound⟩
  | processFile file =>
    obtain ⟨hvalue, hstate, hkept, hfound⟩ := h.processFile warn file
    exact ⟨congrArg Answer.findings hvalue, hstate, hkept, hfound⟩
  | normalize path level keepConstraints =>
    exact ⟨rfl, rfl, ⟨h.settings_eq, h.maxDepth_eq, hsound, h.canonical⟩, List.forall_mem_nil _⟩
  | effectivePath name =>
    have hrouting := RouterTable.toRouting_effectivePath audit.table name
    have hdepth : (audit.table.effectivePath name).state.maxDepth = audit.table.maxDepth :=
      congrArg Routing.maxDepth hrouting
    exact ⟨rfl, rfl, ⟨h.settings_eq, hdepth.trans h.maxDepth_eq, hsound, h.canonical⟩,
      List.forall_mem_nil _⟩
  | routes => exact ⟨rfl, rfl, h, List.forall_mem_nil _⟩

/-- Every history of calls is answered in the same way whether overlaps are reported or not. -/
theorem Orderly.performAll_withOverlap (h : Orderly settings audit) (warn : Bool)
    (calls : List Call) :
    ((audit.withOverlap warn).performAll calls).1 = (audit.performAll calls).1 := by
  induction calls generalizing audit with
  | nil => rfl
  | cons call rest ih =>
    obtain ⟨hanswer, hstate, hnext, -⟩ := h.perform warn call
    have hanswers := ih hnext
    rw [← hstate] at hanswers
    simp only [Audit.performAll, hanswer, hanswers]

/-- Every state that calls lead to is orderly, and all answers to them tell of duplicates only. -/
theorem orderly_after (settings : Settings) (calls : List Call) :
    (∀ answer ∈ answers settings calls, ∀ finding ∈ answer.allFindings,
      finding.IsDuplicate settings) ∧ Orderly settings (after settings calls) := by
  apply performAll_invariant (P := Orderly settings)
    (Q := fun answer => ∀ finding ∈ answer.allFindings, finding.IsDuplicate settings)
  · intro audit call h
    obtain ⟨-, -, hkept, hfound⟩ := h.perform settings.warnOnOverlap call
    exact ⟨hfound, hkept⟩
  · exact orderly_ofSettings settings

/-- **Findings are duplicates.** Over every history of calls, each finding differs from the earlier
registration in the names of parameters only where the level tells segments apart, the paths are
the same, and the route was not written like that path. Every other finding is an exact duplicate.
All of them are reported by the severity of the settings. Whether overlaps are reported makes no
difference to any answer. -/
theorem findings_are_duplicates (settings : Settings) (calls : List Call) :
    (∀ finding ∈ (answers settings calls).flatMap Answer.allFindings,
      finding.verdict.kind =
          (if settings.level ≠ .raw ∧ finding.route.path = finding.first.path ∧
              finding.route.effectivePath ≠ finding.first.path then .paramName
            else .exactDuplicate) ∧
        (finding.severity, finding.kind) = settings.duplicates.reported) ∧
    ∀ warn : Bool,
      answers { settings with warnOnOverlap := warn } calls = answers settings calls := by
  refine ⟨?_, fun warn => (orderly_ofSettings settings).performAll_withOverlap warn calls⟩
  intro finding hfinding
  obtain ⟨answer, hanswer, hmem⟩ := List.mem_flatMap.mp hfinding
  have hduplicate := (orderly_after settings calls).1 answer hanswer finding hmem
  refine ⟨?_, ?_⟩
  · rw [← Verdict.kind_ofDuplicate]
    exact congrArg (·.verdict.kind) hduplicate
  · rw [hduplicate]
    rfl

example :
    ((answers .default [.run renamedTwice none never]).flatMap Answer.allFindings).map
      (·.verdict.kind) = [.paramName] := by decide +kernel

end Audit

end RouteAudit
