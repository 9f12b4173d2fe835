import RouteAudit.Proofs.AuditTables
import RouteAudit.Proofs.FindingKinds

/-!
# Registrations

What one registration comes to: the ledger is asked to enter one route, which is under a canonical
path, and a finding tells of this route and of the one that the ledger holds under its key. Every
finding that an audit ever answers with comes from one registration.
-/

namespace RouteAudit

/-- What a ledger gives back for a route is one of its registrations, under the key of the route. -/
theorem Ledger.mem_of_register {ledger : Ledger} {route first : Route}
    (h : (ledger.register route).1 = some first) :
    first ∈ ledger.routes ∧ first.key = route.key := by
  unfold Ledger.register at h
  cases hfound : ledger.find? route.key with
  | none =>
    rw [hfound] at h
    cases h
  | some existing =>
    rw [hfound] at h
    obtain rfl := Option.some.inj h
    exact Route.mem_of_earliest? hfound

/-- What is found at a collision is about the two routes that collide. -/
theorem Finding.routes_of? {settings : Settings} {route first : Route} {verdict : Verdict}
    {finding : Finding} (h : Finding.of? settings route first verdict = some finding) :
    finding.route = route ∧ finding.first = first := by
  unfold Finding.of? at h
  split at h
  · split at h
    · cases h
      exact ⟨rfl, rfl⟩
    · cases h
      exact ⟨rfl, rfl⟩
  · split at h
    · cases h
      exact ⟨rfl, rfl⟩
    · cases h

namespace Audit

/-- The path that the entry of a registration is under. -/
def entryPath (audit : Audit) (file : String) (registration : Registration) : String :=
  (audit.routeOf file registration).value.path

/-- A registration is taken as a given route: the ledger is asked to enter this route, and what is
found is that it collides with the one that the ledger gives back. -/
structure Registers (audit : Audit) (file : String) (registration : Registration) (route : Route) :
    Prop where
  ledger : (audit.register file registration).state.ledger = (audit.ledger.register route).2
  collision : ∀ finding, (audit.register file registration).value = some finding →
    finding.route = route ∧ (audit.ledger.register route).1 = some finding.first

/-- A registration whose path is not blank is taken as the entry that it makes. -/
theorem registers_routeOf (audit : Audit) (file : String) {registration : Registration}
    (hpath : Text.allBlank registration.path = false) :
    audit.Registers file registration (audit.routeOf file registration).value := by
  have hblank : ¬Text.allBlank registration.path = true := by simp [hpath]
  constructor
  case ledger =>
    unfold register
    rw [if_neg hblank]
    simp only [ledger_routeOf]
    split <;> rfl
  case collision =>
    intro finding hfinding
    unfold register at hfinding
    rw [if_neg hblank] at hfinding
    simp only [ledger_routeOf] at hfinding
    split at hfinding
    · cases hfinding
    · next first hfirst =>
      obtain ⟨hroute, hearlier⟩ := Finding.routes_of? hfinding
      exact ⟨hroute, hearlier ▸ hfirst⟩

/-- With sound memories, an entry is under the canonical form of the path at which it is reached. -/
theorem Sound.entryPath_eq {audit : Audit} (h : audit.Sound) (file : String)
    (registration : Registration) :
    audit.entryPath file registration =
      canonicalForm (audit.settings.fullPath audit.table.toRouting registration)
        audit.settings.level := by
  have hvalue := (h.routeOf file registration).value
  unfold entryPath
  rw [hvalue]
  rfl

/-- What steps lead to has the settings of the beginning. -/
theorem settings_reached (settings : Settings) (steps : List AuditStep) :
    (reached settings steps).settings = settings :=
  (follows_reached settings steps).1.settings

/-! ## Where findings come from -/

/-- A finding comes from a registration, in an orderly audit. -/
def Finds (settings : Settings) (finding : Finding) : Prop :=
  ∃ (audit : Audit) (file : String) (registration : Registration),
    Orderly settings audit ∧ (audit.register file registration).value = some finding

variable {settings : Settings} {audit : Audit}

/-- What an event finds comes from a registration. -/
theorem Orderly.finds_take (h : Orderly settings audit) (file : String) (event : Event) :
    ∀ finding, (audit.take file event).value = some finding → Finds settings finding := by
  intro finding hfinding
  cases event with
  | routeRegistered registration => exact ⟨audit, file, registration, h, hfinding⟩
  | _ => cases hfinding

/-- What the events of a file find comes from registrations. -/
theorem Orderly.finds_takeAll (h : Orderly settings audit) (file : String) (events : List Event) :
    ∀ finding ∈ (audit.takeAll file events).value, Finds settings finding := by
  induction events generalizing audit with
  | nil => exact List.forall_mem_nil _
  | cons event rest ih =>
    intro finding hfinding
    rcases List.mem_append.mp hfinding with hone | hothers
    · exact h.finds_take file event finding (Option.mem_toList.mp hone)
    · exact ih (h.take settings.warnOnOverlap file event).orderly finding hothers

/-- What a file finds comes from registrations. -/
theorem Orderly.finds_processFile (h : Orderly settings audit) (file : SourceFile) :
    ∀ finding ∈ (audit.processFile file).value, Finds settings finding := by
  have hbegun : Orderly settings
      { audit with table := (audit.table.beginFile file.path).state } :=
    ⟨h.settings_eq, h.maxDepth_eq, ⟨h.sound.normalizer, h.sound.table⟩, h.canonical⟩
  exact hbegun.finds_takeAll file.path file.events

/-- What files find comes from registrations, wherever the signal stops. -/
theorem Orderly.finds_processFiles (h : Orderly settings audit) (stop : Nat → Bool) (done : Nat)
    (files : List SourceFile) :
    ∀ finding ∈ (audit.processFiles stop done files).value.findings, Finds settings finding := by
  induction files generalizing audit done with
  | nil => exact List.forall_mem_nil _
  | cons file rest ih =>
    unfold Audit.processFiles
    split
    · exact List.forall_mem_nil _
    · intro finding hfinding
      rcases List.mem_append.mp hfinding with hone | hothers
      · exact h.finds_processFile file finding hone
      · exact ih (h.processFile settings.warnOnOverlap file).orderly (done + 1) finding hothers

/-- What a call finds comes from registrations. -/
theorem Orderly.finds_perform (h : Orderly settings audit) (call : Call) :
    ∀ finding ∈ (audit.perform call).1.allFindings, Finds settings finding := by
  cases call with
  | run files runId stop =>
    have hbegun := (h.beginRun settings.warnOnOverlap runId).orderly
    exact hbegun.finds_processFiles stop 0 files
  | processFile file => exact h.finds_processFile file
  | _ => exact List.forall_mem_nil _

/-- Every finding of every answer comes from a registration. -/
theorem finds_answers (settings : Settings) (calls : List Call) :
    ∀ finding ∈ (answers settings calls).flatMap Answer.allFindings, Finds settings finding := by
  have hanswers := performAll_invariant (P := Orderly settings)
    (Q := fun answer => ∀ finding ∈ answer.allFindings, Finds settings finding)
    (fun audit call h => ⟨h.finds_perform call, (h.perform settings.warnOnOverlap call).2.2.1⟩)
    (orderly_ofSettings settings) calls
  intro finding hfinding
  obtain ⟨answer, hanswer, hmem⟩ := List.mem_flatMap.mp hfinding
  exact hanswers.1 answer hanswer finding hmem

/-- A registration finds a collision of two canonical routes under one key. -/
theorem Finds.collides {finding : Finding} (h : Finds settings finding) :
    finding.route.Canonical settings.level ∧ finding.first.Canonical settings.level ∧
      finding.route.key = finding.first.key := by
  obtain ⟨audit, file, registration, horderly, hfinding⟩ := h
  have hpath : Text.allBlank registration.path = false := by
    by_contra hblank
    unfold Audit.register at hfinding
    rw [if_pos (by simpa using hblank)] at hfinding
    cases hfinding
  obtain ⟨hroute, hfirst⟩ := (audit.registers_routeOf file hpath).collision finding hfinding
  obtain ⟨hmem, hkey⟩ := Ledger.mem_of_register hfirst
  rw [hroute]
  exact ⟨(horderly.routeOf file registration).2, horderly.canonical _ hmem, hkey.symm⟩

end Audit

end RouteAudit
