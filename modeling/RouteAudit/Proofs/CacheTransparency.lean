import RouteAudit.Proofs.CacheSoundness
import RouteAudit.Proofs.CallHistories

/-!
# Caches never show in answers

Every operation of an audit with sound caches gives the value that a plain audit gives, leaves
the state that the plain audit leaves, and keeps the caches sound. Hence over every history of
calls an audit answers like a plain audit, and the sizes of its caches do not matter, except for
the numbers that the caches report about themselves.
-/

namespace RouteAudit

namespace Audit

/-- The state of an audit without its memories. -/
def plain (audit : Audit) : PlainAudit where
  settings := audit.settings.sizeless
  routing := audit.table.toRouting
  ledger := audit.ledger
  issued := audit.issued

/-- Both memories of an audit are sound. -/
structure Sound (audit : Audit) : Prop where
  normalizer : audit.normalizer.Sound
  table : audit.table.Sound

/-- What an operation leaves is what the plain one leaves, with sound memories beside it. -/
structure Mirrors {α : Type} (done : Traced Audit α) (plainly : α × PlainAudit) : Prop where
  value : done.value = plainly.1
  state : done.state.plain = plainly.2
  sound : done.state.Sound

/-- At its beginning an audit remembers nothing. -/
theorem sound_ofSettings (settings : Settings) : (ofSettings settings).Sound where
  normalizer := fun _ hentry => absurd hentry List.not_mem_nil
  table := fun _ hentry => absurd hentry List.not_mem_nil

variable {audit : Audit}

/-- Naming a run mirrors the plain audit. -/
theorem Sound.nameRun (h : audit.Sound) (runId : Option String) :
    (audit.nameRun runId).1 = (audit.plain.nameRun runId).1 ∧
      (audit.nameRun runId).2.plain = (audit.plain.nameRun runId).2 ∧
      (audit.nameRun runId).2.Sound := by
  cases runId with
  | none => exact ⟨rfl, rfl, h.normalizer, h.table⟩
  | some name =>
    unfold Audit.nameRun PlainAudit.nameRun
    by_cases hname : name = ""
    · simp only [if_pos hname]
      exact ⟨rfl, rfl, h.normalizer, h.table⟩
    · simp only [if_neg hname]
      exact ⟨trivial, trivial, h⟩

/-- Beginning a run mirrors the plain audit. -/
theorem Sound.beginRun (h : audit.Sound) (runId : Option String) :
    Mirrors (audit.beginRun runId) (audit.plain.beginRun runId) := by
  obtain ⟨hvalue, hstate, hsound⟩ := h.nameRun runId
  have hledger : (audit.plain.nameRun runId).2.ledger = (audit.nameRun runId).2.ledger := by
    rw [← hstate]
    rfl
  unfold Audit.beginRun PlainAudit.beginRun
  simp only [← hvalue, hledger]
  split
  · exact ⟨rfl, hstate, hsound⟩
  · exact ⟨rfl, by rw [← hstate]; rfl, hsound.normalizer, Cache.sound_clear _⟩

/-- Resolving the path of a registration gives the path computed afresh. -/
theorem Sound.effectivePath (h : audit.Sound) (registration : Registration) :
    Mirrors (audit.effectivePath registration)
      (audit.plain.settings.fullPath audit.plain.routing registration, audit.plain) := by
  unfold Audit.effectivePath Settings.fullPath
  cases registration.router with
  | none => exact ⟨rfl, rfl, h⟩
  | some router =>
    have hvalue := h.table.effectivePath_value router
    have hrouting := RouterTable.toRouting_effectivePath audit.table router
    have hplain :
        Audit.plain { audit with table := (audit.table.effectivePath router).state } =
          audit.plain := by
      simp only [plain, hrouting]
    have hsound :
        Sound { audit with table := (audit.table.effectivePath router).state } :=
      ⟨h.normalizer, h.table.effectivePath router⟩
    have hpath : (audit.table.effectivePath router).value =
        (some router).bind audit.plain.routing.pathOf? := hvalue
    simp only [← hpath]
    cases (audit.table.effectivePath router).value with
    | none => exact ⟨rfl, hplain, hsound⟩
    | some above => exact ⟨rfl, hplain, hsound⟩

/-- The entry for the ledger is the one that is made without memories. -/
theorem Sound.routeOf (h : audit.Sound) (file : String) (registration : Registration) :
    Mirrors (audit.routeOf file registration)
      (audit.plain.settings.routeOf audit.plain.routing file registration, audit.plain) := by
  obtain ⟨hvalue, hstate, hsound⟩ := h.effectivePath registration
  have hsettings : (audit.effectivePath registration).state.settings.level =
      audit.plain.settings.level := congrArg (·.settings.level) hstate
  have hform := hsound.normalizer.normalize_fst
    (audit.plain.settings.fullPath audit.plain.routing registration) audit.plain.settings.level
    (audit.effectivePath registration).state.settings.keepConstraints
  refine ⟨?_, hstate, hsound.normalizer.normalize _ _ _, hsound.table⟩
  unfold Audit.routeOf Settings.routeOf
  simp only [hvalue, hsettings, hform]

/-- What is found at a collision is found without memories. -/
theorem Sound.collide (h : audit.Sound) (route first : Route) :
    Mirrors (audit.collide route first)
      (audit.plain.settings.findingOf? route first, audit.plain) := by
  have hverdict := h.normalizer.compare_fst route.effectivePath first.path audit.settings.level
  refine ⟨?_, rfl, h.normalizer.compare _ _ _, h.table⟩
  unfold Audit.collide Settings.findingOf?
  simp only [hverdict]
  rfl

/-- Entering a route mirrors the plain audit. -/
theorem Sound.register (h : audit.Sound) (file : String) (registration : Registration) :
    Mirrors (audit.register file registration) (audit.plain.register file registration) := by
  unfold Audit.register PlainAudit.register
  split
  · exact ⟨rfl, rfl, h⟩
  · obtain ⟨hvalue, hstate, hsound⟩ := h.routeOf file registration
    have hledger : (audit.routeOf file registration).state.ledger = audit.plain.ledger :=
      congrArg PlainAudit.ledger hstate
    simp only [hvalue, hledger]
    cases hfound : audit.plain.ledger.register
      (audit.plain.settings.routeOf audit.plain.routing file registration) with
    | mk existing ledger =>
      have hplain : Audit.plain { (audit.routeOf file registration).state with ledger } =
          { audit.plain with ledger } :=
        congrArg (fun plain : PlainAudit => { plain with ledger }) hstate
      have hentered : Sound { (audit.routeOf file registration).state with ledger } :=
        ⟨hsound.normalizer, hsound.table⟩
      cases existing with
      | none => exact ⟨rfl, hplain, hentered⟩
      | some first =>
        obtain ⟨hfinding, hafter, hkept⟩ := hentered.collide
          (audit.plain.settings.routeOf audit.plain.routing file registration) first
        rw [hplain] at hfinding hafter
        exact ⟨hfinding, hafter, hkept⟩

/-- Taking an event mirrors the plain audit. -/
theorem Sound.take (h : audit.Sound) (file : String) (event : Event) :
    Mirrors (audit.take file event) (audit.plain.take file event) := by
  cases event with
  | routerCreated identifier callee framework => exact ⟨rfl, rfl, h.normalizer, h.table⟩
  | mountAttempted callee arguments => exact ⟨rfl, rfl, h.normalizer, h.table⟩
  | routerExported identifier => exact ⟨rfl, rfl, h.normalizer, h.table⟩
  | routerImported importedName localName source => exact ⟨rfl, rfl, h.normalizer, h.table⟩
  | routeRegistered registration => exact h.register file registration

/-- Taking the events of a file mirrors the plain audit. -/
theorem Sound.takeAll (h : audit.Sound) (file : String) (events : List Event) :
    Mirrors (audit.takeAll file events) (audit.plain.takeAll file events) := by
  induction events generalizing audit with
  | nil => exact ⟨rfl, rfl, h⟩
  | cons event rest ih =>
    obtain ⟨hvalue, hstate, hsound⟩ := h.take file event
    obtain ⟨hvalues, hlast, hkept⟩ := ih hsound
    rw [hstate] at hvalues hlast
    refine ⟨?_, hlast, hkept⟩
    simp only [Audit.takeAll, PlainAudit.takeAll, hvalue, hvalues]

/-- Taking a file mirrors the plain audit. -/
theorem Sound.processFile (h : audit.Sound) (file : SourceFile) :
    Mirrors (audit.processFile file) (audit.plain.processFile file) := by
  have hbegun : Sound { audit with table := (audit.table.beginFile file.path).state } :=
    ⟨h.normalizer, h.table⟩
  obtain ⟨hvalue, hstate, hsound⟩ := hbegun.takeAll file.path file.events
  exact ⟨hvalue, hstate, hsound⟩

/-- Taking files mirrors the plain audit, wherever the signal stops it. -/
theorem Sound.processFiles (h : audit.Sound) (stop : Nat → Bool) (done : Nat)
    (files : List SourceFile) :
    Mirrors (audit.processFiles stop done files) (audit.plain.processFiles stop done files) := by
  induction files generalizing audit done with
  | nil => exact ⟨rfl, rfl, h⟩
  | cons file rest ih =>
    unfold Audit.processFiles PlainAudit.processFiles
    split
    · exact ⟨rfl, rfl, h⟩
    · obtain ⟨hvalue, hstate, hsound⟩ := h.processFile file
      obtain ⟨hvalues, hlast, hkept⟩ := ih hsound (done + 1)
      rw [hstate] at hvalues hlast
      refine ⟨?_, hlast, hkept⟩
      simp only [hvalue, hvalues]

/-- A run mirrors the plain one but for the numbers that caches report. -/
theorem Sound.run (h : audit.Sound) (files : List SourceFile) (runId : Option String)
    (stop : Nat → Bool) :
    (Answer.result (audit.run files runId stop).value).withoutStats =
        .result (audit.plain.run files runId stop).1 ∧
      (audit.run files runId stop).state.plain = (audit.plain.run files runId stop).2 ∧
      (audit.run files runId stop).state.Sound := by
  obtain ⟨_, hbegun, hsound⟩ := h.beginRun runId
  obtain ⟨hvalue, hstate, hkept⟩ := hsound.processFiles stop 0 files
  rw [hbegun] at hvalue hstate
  have hledger : ((audit.beginRun runId).state.processFiles stop 0 files).state.ledger =
      ((audit.plain.beginRun runId).2.processFiles stop 0 files).2.ledger :=
    congrArg PlainAudit.ledger hstate
  refine ⟨?_, hstate, hkept⟩
  simp only [Audit.run, PlainAudit.run, Answer.withoutStats, hvalue, hledger]

/-- Every call is answered as by the plain audit, and leaves its state. -/
theorem Sound.perform (h : audit.Sound) (call : Call) :
    (audit.perform call).1.withoutStats = (audit.plain.perform call).1 ∧
      (audit.perform call).2.plain = (audit.plain.perform call).2 ∧
      (audit.perform call).2.Sound := by
  cases call with
  | beginRun runId =>
    obtain ⟨hvalue, hstate, hsound⟩ := h.beginRun runId
    exact ⟨congrArg Answer.runName hvalue, hstate, hsound⟩
  | run files runId stop => exact h.run files runId stop
  | processFile file =>
    obtain ⟨hvalue, hstate, hsound⟩ := h.processFile file
    exact ⟨congrArg Answer.findings hvalue, hstate, hsound⟩
  | normalize path level keepConstraints =>
    have hform := h.normalizer.normalize_fst path level keepConstraints
    exact ⟨congrArg Answer.form hform, rfl, h.normalizer.normalize _ _ _, h.table⟩
  | effectivePath name =>
    have hrouting := RouterTable.toRouting_effectivePath audit.table name
    refine ⟨congrArg Answer.path (h.table.effectivePath_value name), ?_, h.normalizer,
      h.table.effectivePath name⟩
    simp only [Audit.perform, PlainAudit.perform, plain, hrouting]
  | routes => exact ⟨rfl, rfl, h⟩

/-- Every history of calls is answered as by the plain audit, and leaves its state. -/
theorem Sound.performAll (h : audit.Sound) (calls : List Call) :
    (audit.performAll calls).1.map Answer.withoutStats = (audit.plain.performAll calls).1 ∧
      (audit.performAll calls).2.plain = (audit.plain.performAll calls).2 ∧
      (audit.performAll calls).2.Sound := by
  induction calls generalizing audit with
  | nil => exact ⟨rfl, rfl, h⟩
  | cons call rest ih =>
    obtain ⟨hanswer, hstate, hsound⟩ := h.perform call
    obtain ⟨hanswers, hlast, hkept⟩ := ih hsound
    rw [hstate] at hanswers hlast
    refine ⟨?_, hlast, hkept⟩
    simp only [Audit.performAll, PlainAudit.performAll, List.map_cons, hanswer, hanswers]

/-- **Caches never show.** Over every history of calls, two audits whose settings differ in the
sizes of the caches only give the same answers, which are those of an audit without caches; only
the numbers that caches report about themselves are left out. -/
theorem answers_withoutStats_eq_plain (settings other : Settings)
    (hsizes : settings.sizeless = other.sizeless) (calls : List Call) :
    (answers settings calls).map Answer.withoutStats =
        (answers other calls).map Answer.withoutStats ∧
      (answers settings calls).map Answer.withoutStats = PlainAudit.answers settings calls := by
  have hplain : ∀ some : Settings,
      (answers some calls).map Answer.withoutStats = PlainAudit.answers some calls :=
    fun some => ((sound_ofSettings some).performAll calls).1
  have hsame : PlainAudit.ofSettings settings = PlainAudit.ofSettings other := by
    have hdepth : settings.sizeless.maxDepth = other.sizeless.maxDepth := by rw [hsizes]
    have hmax : settings.maxDepth = other.maxDepth := hdepth
    rw [PlainAudit.ofSettings, PlainAudit.ofSettings, hsizes, hmax]
  refine ⟨?_, hplain settings⟩
  rw [hplain, hplain, PlainAudit.answers, PlainAudit.answers, hsame]

/-- Caches that hold one entry each give the answers of larger ones. -/
theorem answers_withoutStats_one_entry :
    Settings.default.sizeless = Settings.default.sizeless.sizeless ∧
      (answers Settings.default [.run renamedTwice (some "one") never, .routes]).map
          Answer.withoutStats =
        (answers Settings.default.sizeless [.run renamedTwice (some "one") never, .routes]).map
          Answer.withoutStats ∧
      (answers Settings.default [.run renamedTwice (some "one") never, .routes]).map
          Answer.withoutStats =
        PlainAudit.answers Settings.default [.run renamedTwice (some "one") never, .routes] :=
  ⟨rfl, answers_withoutStats_eq_plain .default Settings.default.sizeless rfl
    [.run renamedTwice (some "one") never, .routes]⟩

end Audit

end RouteAudit
