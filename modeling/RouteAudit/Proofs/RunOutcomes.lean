import RouteAudit.Proofs.FirstRegistrations
import RouteAudit.Proofs.NewRuns
import RouteAudit.Proofs.RunContinuation

/-!
# What new runs come to

A new run begins with no routers and an empty ledger. What it comes to is therefore a function of
the settings and of the files that are taken before a signal stops it: the first entry under every
key is registered, and every other entry is reported as its duplicate. The state that the run began
in shows in the numbers of the caches only.
-/

namespace RouteAudit

/-- What is found about a refused route and the first one under its key. -/
def Settings.duplicateOf (settings : Settings) (refusal : Route × Route) : Finding :=
  .duplicate settings.duplicates settings.level refusal.1 refusal.2

/-- What is found about refused routes tells of these routes. -/
theorem Settings.map_collision_duplicateOf (settings : Settings) (refused : List (Route × Route)) :
    (refused.map settings.duplicateOf).map Finding.collision = refused := by
  rw [List.map_map]
  exact List.map_id refused

/-- Duplicates are what is found about the routes that they pair. -/
theorem Settings.map_duplicateOf_collision {settings : Settings} {found : List Finding}
    (h : ∀ finding ∈ found, finding.IsDuplicate settings) :
    (found.map Finding.collision).map settings.duplicateOf = found := by
  rw [List.map_map]
  have hself : ∀ finding ∈ found, (settings.duplicateOf ∘ Finding.collision) finding = finding :=
    fun finding hfinding => (h finding hfinding).symm
  rw [List.map_congr_left hself, List.map_id']

/-- The entries of a new run over files. -/
def Settings.newEntries (settings : Settings) (files : List SourceFile) : List Route :=
  settings.entries { maxDepth := settings.maxDepth } files

/-- What a new run over files comes to, with no caches to report about. -/
def Settings.outcome (settings : Settings) (files : List SourceFile) (cancelled : Bool) :
    AuditResult where
  findings := (Route.refused (settings.newEntries files)).map settings.duplicateOf
  filesProcessed := files.length
  routesRegistered := (Route.newcomers (settings.newEntries files)).length
  cancelled := cancelled
  formStats := ⟨0, 0, 0⟩
  joinStats := ⟨0, 0, 0⟩

/-- What a new run comes to depends on the settings only in what they make of registrations and of
duplicates, and in the bound on the depth of mounts. -/
theorem Settings.outcome_congr {settings other : Settings}
    (hdepth : settings.maxDepth = other.maxDepth) (hroute : settings.routeOf = other.routeOf)
    (hduplicate : settings.duplicateOf = other.duplicateOf) (files : List SourceFile)
    (cancelled : Bool) : settings.outcome files cancelled = other.outcome files cancelled := by
  have hentries : settings.newEntries files = other.newEntries files := by
    unfold newEntries
    rw [hdepth]
    exact entries_congr hroute _ files
  unfold outcome
  rw [hentries, hduplicate]

/-- A new run is without errors exactly if it reports nothing where duplicates are errors. -/
theorem Settings.ok_outcome_iff (settings : Settings) (files : List SourceFile) (cancelled : Bool) :
    (settings.outcome files cancelled).ok ↔
      (settings.duplicates = .error → (settings.outcome files cancelled).findings.length = 0) := by
  have hseverity : ∀ refusal,
      (settings.duplicateOf refusal).severity = settings.duplicates.reported.1 := fun _ => rfl
  simp only [AuditResult.ok, AuditResult.errors, AuditResult.ofSeverity, outcome,
    List.isEmpty_iff, List.filter_eq_nil_iff, List.length_map, List.length_eq_zero_iff,
    List.forall_mem_map, hseverity]
  cases settings.duplicates with
  | warning => simp [Severity.reported]
  | error => simp [Severity.reported, List.eq_nil_iff_forall_not_mem]

/-- A result is told by what it comes to without the numbers of the caches, and by these numbers. -/
theorem AuditResult.eq_of_withoutStats {result plain : AuditResult}
    (h : (Answer.result result).withoutStats = .result plain) :
    result = { plain with formStats := result.formStats, joinStats := result.joinStats } := by
  simp only [Answer.withoutStats, Answer.result.injEq] at h
  subst h
  rfl

namespace Audit

/-! ## Signals -/

/-- The files of a list that are taken before a signal stops a run, and whether it is stopped. -/
def taken (stop : Nat → Bool) (done : Nat) : List SourceFile → List SourceFile × Bool
  | [] => ([], false)
  | file :: rest =>
      if stop done then ([], true)
      else
        let (others, stopped) := taken stop (done + 1) rest
        (file :: others, stopped)

/-- The signal that never stops a run lets it take all files. -/
theorem taken_never (done : Nat) (files : List SourceFile) :
    taken never done files = (files, false) := by
  induction files generalizing done with
  | nil => rfl
  | cons file rest ih => simp only [taken, never, Bool.false_eq_true, if_false] at ih ⊢; rw [ih]

/-- A signal has no effect but on which files are taken. -/
theorem processFiles_taken (audit : Audit) (stop : Nat → Bool) (done : Nat)
    (files : List SourceFile) :
    (audit.processFiles stop done files).state =
        (audit.processFiles never 0 (taken stop done files).1).state ∧
      (audit.processFiles stop done files).value =
        { (audit.processFiles never 0 (taken stop done files).1).value with
          cancelled := (taken stop done files).2 } := by
  induction files generalizing audit done with
  | nil => exact ⟨rfl, rfl⟩
  | cons file rest ih =>
    by_cases hstop : stop done
    · simp [processFiles, taken, hstop]
    · have hgo : stop done = false := by simpa using hstop
      have htaken : taken stop done (file :: rest) =
          (file :: (taken stop (done + 1) rest).1, (taken stop (done + 1) rest).2) := by
        simp only [taken, hgo, Bool.false_eq_true, if_false]
      obtain ⟨hstate, hvalue⟩ := processFiles_cons audit file rest hgo
      obtain ⟨hpart, hpartValue⟩ :=
        processFiles_never_cons audit file (taken stop (done + 1) rest).1
      obtain ⟨hrest, hrestValue⟩ := ih (audit.processFile file).state (done + 1)
      rw [htaken, hstate, hvalue, hpart, hpartValue, hrest, hrestValue]
      exact ⟨rfl, rfl⟩

/-- If nothing stops a run, it takes all of its files. -/
theorem progress_never (audit : Audit) (files : List SourceFile) :
    (audit.processFiles never 0 files).value.filesProcessed = files.length ∧
      (audit.processFiles never 0 files).value.cancelled = false := by
  induction files generalizing audit with
  | nil => exact ⟨rfl, rfl⟩
  | cons file rest ih =>
    obtain ⟨hprocessed, hcancelled⟩ := ih (audit.processFile file).state
    obtain ⟨-, hvalue⟩ := processFiles_never_cons audit file rest
    rw [hvalue]
    refine ⟨?_, hcancelled⟩
    rw [RunProgress.followedBy, hprocessed, List.length_cons, Nat.add_comm]

/-! ## Fresh audits -/

/-- An orderly audit that knows of no routers and holds no registrations. -/
structure Fresh (settings : Settings) (audit : Audit) : Prop extends Orderly settings audit where
  routing_eq : audit.table.toRouting = { maxDepth := settings.maxDepth }
  routes_eq : audit.ledger.routes = []

variable {settings : Settings} {audit : Audit}

/-- Beginning a run under a new name makes an audit fresh, whatever was done to it. -/
theorem fresh_beginRun {steps : List AuditStep} {runId : Option String}
    (hnew : (reached settings steps).ledger.runId ≠
      some ((reached settings steps).nameRun runId).1) :
    Fresh settings ((reached settings steps).beginRun runId).state := by
  obtain ⟨⟨hsettings, calls, htable⟩, hsound⟩ := follows_reached settings steps
  have hdepth : (reached settings steps).table.maxDepth = settings.maxDepth := by
    rw [htable, RouterTable.maxDepth_performAll]
    rfl
  have hrouting : (reached settings steps).table.reset.state.toRouting =
      { maxDepth := settings.maxDepth } := by
    rw [← hdepth]
    rfl
  obtain ⟨issued, hbegun⟩ := exists_beginRun_eq_of_new hnew
  rw [hbegun]
  exact {
    settings_eq := hsettings
    maxDepth_eq := congrArg Routing.maxDepth hrouting
    sound := ⟨hsound.normalizer, Cache.sound_clear _⟩
    canonical := List.forall_mem_nil _
    routing_eq := hrouting
    routes_eq := rfl }

/-- A fresh audit that takes files registers the newcomers among their entries and reports the
others. -/
theorem Fresh.processFiles (h : Fresh settings audit) (files : List SourceFile) :
    (audit.processFiles never 0 files).state.ledger.routes =
        Route.newcomers (settings.newEntries files) ∧
      (audit.processFiles never 0 files).value.findings =
        (Route.refused (settings.newEntries files)).map settings.duplicateOf := by
  obtain ⟨hvalue, hstate, -⟩ := h.sound.processFiles never 0 files
  have hentered : audit.plain.Entered settings.sizeless [] :=
    ⟨h.plain_settings, h.routes_eq, List.forall_mem_nil _⟩
  obtain ⟨hfindings, hafter⟩ := hentered.processFiles 0 files
  have hrouting : audit.plain.routing = { maxDepth := settings.maxDepth } := h.routing_eq
  rw [hrouting, Settings.entries_sizeless, ← hvalue] at hfindings
  rw [hrouting, Settings.entries_sizeless, ← hstate] at hafter
  have hduplicates :=
    (h.toOrderly.processFiles settings.warnOnOverlap never 0 files).duplicates
  constructor
  · exact hafter.ledger
  · rw [← Settings.map_duplicateOf_collision hduplicates, hfindings]
    rfl

/-- **New runs.** Whatever was done to an audit, a run under another name than the current one comes
to a function of the settings and of the files that are taken, but for the numbers that caches
report about themselves, and the ledger then holds the newcomers among the entries of these files.
-/
theorem run_outcome {steps : List AuditStep} {runId : Option String}
    (hnew : (reached settings steps).ledger.runId ≠
      some ((reached settings steps).nameRun runId).1)
    (files : List SourceFile) (stop : Nat → Bool) :
    (Answer.result ((reached settings steps).run files runId stop).value).withoutStats =
        .result (settings.outcome (taken stop 0 files).1 (taken stop 0 files).2) ∧
      ((reached settings steps).run files runId stop).state.ledger.routes =
        Route.newcomers (settings.newEntries (taken stop 0 files).1) := by
  have hbegun := fresh_beginRun hnew
  obtain ⟨hstate, hvalue⟩ :=
    processFiles_taken ((reached settings steps).beginRun runId).state stop 0 files
  obtain ⟨hroutes, hfindings⟩ := hbegun.processFiles (taken stop 0 files).1
  obtain ⟨hprocessed, -⟩ :=
    progress_never ((reached settings steps).beginRun runId).state (taken stop 0 files).1
  have hledger : ((reached settings steps).run files runId stop).state.ledger.routes =
      Route.newcomers (settings.newEntries (taken stop 0 files).1) := by
    rw [← hroutes, ← hstate]
    rfl
  refine ⟨?_, hledger⟩
  have hregistered : ((reached settings steps).run files runId stop).value.routesRegistered =
      (Route.newcomers (settings.newEntries (taken stop 0 files).1)).length :=
    congrArg List.length hledger
  simp only [Answer.withoutStats, hregistered, Settings.outcome]
  simp only [run, hvalue, hfindings, hprocessed]

/-- What a new run comes to that nothing stops. -/
theorem run_outcome_never {steps : List AuditStep} {runId : Option String}
    (hnew : (reached settings steps).ledger.runId ≠
      some ((reached settings steps).nameRun runId).1) (files : List SourceFile) :
    (Answer.result ((reached settings steps).run files runId never).value).withoutStats =
        .result (settings.outcome files false) ∧
      ((reached settings steps).run files runId never).state.ledger.routes =
        Route.newcomers (settings.newEntries files) := by
  have h := run_outcome hnew files never
  rwa [taken_never] at h

end Audit

end RouteAudit
