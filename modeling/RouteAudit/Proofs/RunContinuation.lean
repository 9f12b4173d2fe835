import RouteAudit.Proofs.CallHistories

/-!
# Continuing a run

The files of a run can be given in several portions under one name, and a run that was stopped can
be taken up again: the state and the findings come to those of one run over all files. Nothing
here depends on how a state was reached.
-/

namespace RouteAudit

/-- What two portions of files come to when one is taken after the other. -/
def RunProgress.followedBy (first second : RunProgress) : RunProgress where
  findings := first.findings ++ second.findings
  filesProcessed := first.filesProcessed + second.filesProcessed
  cancelled := second.cancelled

/-- Three portions come to the same whichever two of them are put together first. -/
theorem RunProgress.followedBy_assoc (first second third : RunProgress) :
    (first.followedBy second).followedBy third = first.followedBy (second.followedBy third) := by
  simp [RunProgress.followedBy, List.append_assoc, Nat.add_assoc]

/-- Two runs, one after the other, that come to what a whole run comes to. -/
structure Completes (first second whole : Traced Audit AuditResult) : Prop where
  state : second.state = whole.state
  findings : first.value.findings ++ second.value.findings = whole.value.findings
  filesProcessed :
    first.value.filesProcessed + second.value.filesProcessed = whole.value.filesProcessed
  routesRegistered : second.value.routesRegistered = whole.value.routesRegistered
  formStats : second.value.formStats = whole.value.formStats
  joinStats : second.value.joinStats = whole.value.joinStats
  cancelled : second.value.cancelled = whole.value.cancelled

namespace Audit

/-! ## The name of the current run -/

/-- Entering a route keeps the name of the run. -/
theorem runId_register (ledger : Ledger) (route : Route) :
    (ledger.register route).2.runId = ledger.runId := by
  unfold Ledger.register
  split <;> rfl

/-- Resolving the path of a registration changes the memory of joined mounts only. -/
theorem state_effectivePath (audit : Audit) (registration : Registration) :
    (audit.effectivePath registration).state =
      match registration.router with
      | none => audit
      | some router => { audit with table := (audit.table.effectivePath router).state } := by
  unfold effectivePath
  cases registration.router with
  | none => rfl
  | some router => cases hvalue : (audit.table.effectivePath router).value <;> simp only [hvalue]

/-- Making the entry of a registration leaves the ledger as it is. -/
theorem ledger_routeOf (audit : Audit) (file : String) (registration : Registration) :
    (audit.routeOf file registration).state.ledger = audit.ledger := by
  change (audit.effectivePath registration).state.ledger = audit.ledger
  rw [state_effectivePath]
  cases registration.router <;> rfl

/-- An event keeps the name of the run. -/
theorem runId_take (audit : Audit) (file : String) (event : Event) :
    (audit.take file event).state.ledger.runId = audit.ledger.runId := by
  cases event with
  | routeRegistered registration =>
    have hkept := runId_register (audit.routeOf file registration).state.ledger
      (audit.routeOf file registration).value
    rw [ledger_routeOf] at hkept
    unfold take register
    simp only [ledger_routeOf]
    split
    · rfl
    · split
      · exact hkept
      · exact hkept
  | _ => rfl

/-- The events of a file keep the name of the run. -/
theorem runId_takeAll (audit : Audit) (file : String) (events : List Event) :
    (audit.takeAll file events).state.ledger.runId = audit.ledger.runId := by
  induction events generalizing audit with
  | nil => rfl
  | cons event rest ih => exact (ih _).trans (runId_take audit file event)

/-- Files keep the name of the run. -/
theorem runId_processFiles (audit : Audit) (stop : Nat → Bool) (done : Nat)
    (files : List SourceFile) :
    (audit.processFiles stop done files).state.ledger.runId = audit.ledger.runId := by
  induction files generalizing audit done with
  | nil => rfl
  | cons file rest ih =>
    unfold processFiles
    split
    · rfl
    · exact (ih _ _).trans (runId_takeAll _ _ _)

/-- A run that is named goes on under this name. -/
theorem runId_beginRun (audit : Audit) {name : String} (hname : name ≠ "") :
    (audit.beginRun (some name)).state.ledger.runId = some name := by
  unfold beginRun nameRun
  simp only [if_neg hname]
  split
  · assumption
  · next hother => simp only [Ledger.beginRun, if_neg hother]

/-- Beginning the current run once more changes nothing. -/
theorem beginRun_of_current {audit : Audit} {name : String} (hname : name ≠ "")
    (hcurrent : audit.ledger.runId = some name) :
    audit.beginRun (some name) = { value := name, state := audit } := by
  unfold beginRun nameRun
  simp only [if_neg hname, if_pos hcurrent]

/-! ## Portions of files -/

/-- What comes of a file that is taken with others behind it. -/
theorem processFiles_cons (audit : Audit) {stop : Nat → Bool} {done : Nat} (file : SourceFile)
    (rest : List SourceFile) (hgo : stop done = false) :
    (audit.processFiles stop done (file :: rest)).state =
        ((audit.processFile file).state.processFiles stop (done + 1) rest).state ∧
      (audit.processFiles stop done (file :: rest)).value =
        RunProgress.followedBy ⟨(audit.processFile file).value, 1, false⟩
          ((audit.processFile file).state.processFiles stop (done + 1) rest).value := by
  simp only [processFiles, hgo, Bool.false_eq_true, if_false, RunProgress.followedBy,
    Nat.add_comm 1, and_self]

/-- If nothing stops a run, the number of files taken before does not matter. -/
theorem processFiles_never (audit : Audit) (done other : Nat) (files : List SourceFile) :
    audit.processFiles never done files = audit.processFiles never other files := by
  induction files generalizing audit done other with
  | nil => rfl
  | cons file rest ih =>
    have hrest := ih (audit.processFile file).state (done + 1) (other + 1)
    simp only [processFiles, never, Bool.false_eq_true, if_false] at hrest ⊢
    rw [hrest]

/-- What comes of a file that is taken with others behind it, if nothing stops the run. -/
theorem processFiles_never_cons (audit : Audit) (file : SourceFile) (rest : List SourceFile) :
    (audit.processFiles never 0 (file :: rest)).state =
        ((audit.processFile file).state.processFiles never 0 rest).state ∧
      (audit.processFiles never 0 (file :: rest)).value =
        RunProgress.followedBy ⟨(audit.processFile file).value, 1, false⟩
          ((audit.processFile file).state.processFiles never 0 rest).value := by
  have hgo : never 0 = false := rfl
  rw [processFiles_never _ 0 1 rest]
  exact processFiles_cons audit file rest hgo

/-- Files in two portions come to what all of them come to. -/
theorem processFiles_append (audit : Audit) (first second : List SourceFile) :
    (audit.processFiles never 0 (first ++ second)).state =
        ((audit.processFiles never 0 first).state.processFiles never 0 second).state ∧
      (audit.processFiles never 0 (first ++ second)).value =
        (audit.processFiles never 0 first).value.followedBy
          ((audit.processFiles never 0 first).state.processFiles never 0 second).value := by
  induction first generalizing audit with
  | nil => simp [processFiles, RunProgress.followedBy]
  | cons file rest ih =>
    obtain ⟨hstate, hvalue⟩ := processFiles_never_cons audit file rest
    obtain ⟨hwhole, hwholeValue⟩ := processFiles_never_cons audit file (rest ++ second)
    obtain ⟨hrest, hrestValue⟩ := ih (audit.processFile file).state
    rw [List.cons_append, hwhole, hwholeValue, hstate, hvalue, hrest, hrestValue,
      RunProgress.followedBy_assoc]
    exact ⟨rfl, rfl⟩

/-- Until the signal first stops a run, the run goes on as one that nothing stops. -/
theorem processFiles_stopped (audit : Audit) {stop : Nat → Bool} {done k : Nat}
    {files : List SourceFile} (hk : k < files.length) (hgo : ∀ j < k, stop (done + j) = false)
    (hstop : stop (done + k) = true) :
    (audit.processFiles stop done files).state =
        (audit.processFiles never 0 (files.take k)).state ∧
      (audit.processFiles stop done files).value =
        { (audit.processFiles never 0 (files.take k)).value with cancelled := true } := by
  induction k generalizing audit done files with
  | zero =>
    cases files with
    | nil => simp at hk
    | cons file rest =>
      have hnow : stop done = true := hstop
      simp [processFiles, hnow]
  | succ k ih =>
    cases files with
    | nil => simp at hk
    | cons file rest =>
      have hshift : ∀ j, done + 1 + j = done + (j + 1) := fun j => by omega
      have hnow : stop done = false := hgo 0 (Nat.succ_pos k)
      have hlater : ∀ j < k, stop (done + 1 + j) = false := by
        intro j hj
        rw [hshift]
        exact hgo (j + 1) (by omega)
      have hlength : k < rest.length := by simpa using hk
      obtain ⟨hstate, hvalue⟩ := processFiles_cons audit file rest hnow
      obtain ⟨hpart, hpartValue⟩ := processFiles_never_cons audit file (rest.take k)
      obtain ⟨hrest, hrestValue⟩ :=
        ih (audit.processFile file).state hlength hlater (by rw [hshift]; exact hstop)
      rw [List.take_succ_cons, hstate, hvalue, hpart, hpartValue, hrest, hrestValue]
      exact ⟨rfl, rfl⟩

/-! ## Runs -/

/-- What a run reports when its files have been processed. -/
def reported (processed : Traced Audit RunProgress) : AuditResult where
  findings := processed.value.findings
  filesProcessed := processed.value.filesProcessed
  routesRegistered := processed.state.ledger.size
  cancelled := processed.value.cancelled
  formStats := processed.state.normalizer.cache.stats
  joinStats := processed.state.table.joins.stats

/-- A run that goes on under the current name processes its files right away. -/
theorem run_of_current {audit : Audit} {name : String} (hname : name ≠ "")
    (hcurrent : audit.ledger.runId = some name) (files : List SourceFile) (stop : Nat → Bool) :
    (audit.run files (some name) stop).state = (audit.processFiles stop 0 files).state ∧
      (audit.run files (some name) stop).value = reported (audit.processFiles stop 0 files) := by
  unfold run
  rw [beginRun_of_current hname hcurrent]
  exact ⟨rfl, rfl⟩

/-- Running over files under a name and then over more of them under the same name completes the
run over all of them. -/
theorem completes_append (audit : Audit) {name : String} (hname : name ≠ "")
    (first second : List SourceFile) :
    Completes (audit.run first (some name) never)
      ((audit.run first (some name) never).state.run second (some name) never)
      (audit.run (first ++ second) (some name) never) := by
  have hcurrent : (audit.run first (some name) never).state.ledger.runId = some name :=
    (runId_processFiles _ _ _ _).trans (runId_beginRun audit hname)
  obtain ⟨hlast, hreport⟩ := run_of_current hname hcurrent second never
  obtain ⟨hstate, hvalue⟩ :=
    processFiles_append (audit.beginRun (some name)).state first second
  refine ⟨hlast.trans hstate.symm, ?findings, ?filesProcessed, ?routesRegistered, ?formStats,
    ?joinStats, ?cancelled⟩ <;> rw [hreport]
  case findings => exact (congrArg RunProgress.findings hvalue).symm
  case filesProcessed => exact (congrArg RunProgress.filesProcessed hvalue).symm
  case routesRegistered => exact (congrArg (·.ledger.size) hstate).symm
  case formStats => exact (congrArg (·.normalizer.cache.stats) hstate).symm
  case joinStats => exact (congrArg (·.table.joins.stats) hstate).symm
  case cancelled => exact (congrArg RunProgress.cancelled hvalue).symm

/-- A run that is stopped before its `k`-th file comes to what a run over the files before it comes
to, but that it says it was stopped. -/
theorem run_stopped (audit : Audit) (name : String) {stop : Nat → Bool} {k : Nat}
    {files : List SourceFile} (hk : k < files.length) (hgo : ∀ j < k, stop j = false)
    (hstop : stop k = true) :
    (audit.run files (some name) stop).state =
        (audit.run (files.take k) (some name) never).state ∧
      (audit.run files (some name) stop).value =
        { (audit.run (files.take k) (some name) never).value with cancelled := true } := by
  have hbefore : ∀ j < k, stop (0 + j) = false := fun j hj => by rw [Nat.zero_add, hgo j hj]
  have hat : stop (0 + k) = true := by rw [Nat.zero_add, hstop]
  obtain ⟨hstate, hvalue⟩ :=
    processFiles_stopped (audit.beginRun (some name)).state hk hbefore hat
  refine ⟨hstate, ?_⟩
  change reported ((audit.beginRun (some name)).state.processFiles stop 0 files) =
    { reported ((audit.beginRun (some name)).state.processFiles never 0 (files.take k)) with
      cancelled := true }
  simp only [reported, hstate, hvalue]

/-- **Runs can be continued.** From every state, a run under a name over files and then one over
more files complete the run over all of them. A run that is stopped comes to what a run over the
files before that comes to, and a run over the others completes it. -/
theorem run_continues (audit : Audit) {name : String} (hname : name ≠ "") :
    (∀ first second : List SourceFile,
      Completes (audit.run first (some name) never)
        ((audit.run first (some name) never).state.run second (some name) never)
        (audit.run (first ++ second) (some name) never)) ∧
    ∀ (files : List SourceFile) (stop : Nat → Bool) (k : Nat), k < files.length →
      (∀ j < k, stop j = false) → stop k = true →
      (audit.run files (some name) stop).state =
          (audit.run (files.take k) (some name) never).state ∧
        (audit.run files (some name) stop).value =
          { (audit.run (files.take k) (some name) never).value with cancelled := true } ∧
        Completes (audit.run files (some name) stop)
          ((audit.run files (some name) stop).state.run (files.drop k) (some name) never)
          (audit.run files (some name) never) := by
  refine ⟨completes_append audit hname, ?_⟩
  intro files stop k hk hgo hstop
  obtain ⟨hstate, hvalue⟩ := run_stopped audit name hk hgo hstop
  have hwhole := completes_append audit hname (files.take k) (files.drop k)
  rw [List.take_append_drop] at hwhole
  refine ⟨hstate, hvalue, ?_⟩
  rw [← hstate] at hwhole
  refine ⟨hwhole.state, ?_, ?_, hwhole.routesRegistered, hwhole.formStats, hwhole.joinStats,
    hwhole.cancelled⟩
  · rw [hvalue, ← hwhole.findings]
  · rw [hvalue, ← hwhole.filesProcessed]

/-- A run over two files that is stopped after the first one is completed by the second one. -/
theorem run_continues_second_file :
    "one" ≠ "" ∧ 1 < renamedTwice.length ∧ (∀ j < 1, (fun n => n == 1) j = false) ∧
      (fun n => n == 1) 1 = true ∧
      Completes ((ofSettings .default).run renamedTwice (some "one") fun n => n == 1)
        (((ofSettings .default).run renamedTwice (some "one") fun n => n == 1).state.run
          (renamedTwice.drop 1) (some "one") never)
        ((ofSettings .default).run renamedTwice (some "one") never) := by
  have hname : "one" ≠ "" := by decide
  have hlength : 1 < renamedTwice.length := by decide
  have hgo : ∀ j < 1, (fun n => n == 1) j = false := by decide
  obtain ⟨-, hstopped⟩ := run_continues (ofSettings .default) hname
  exact ⟨hname, hlength, hgo, rfl,
    (hstopped renamedTwice (fun n => n == 1) 1 hlength hgo rfl).2.2⟩

end Audit

end RouteAudit
