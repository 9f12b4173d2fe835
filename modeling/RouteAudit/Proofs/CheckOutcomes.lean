import RouteAudit.Command
import RouteAudit.Proofs.ArrivalPlaces
import RouteAudit.Proofs.CheckSettings
import RouteAudit.Proofs.EventReading
import RouteAudit.Proofs.FormOptions
import RouteAudit.Proofs.Newcomers

/-!
# Outcomes of checks

A check of a document that can be read prints the summary of a new run over its files, if the output
has a form for it. It fails exactly if duplicates are errors and two routes of the files are entered
under one key. Flags that decide neither about entries nor about the severity of duplicates show in
neither.
-/

namespace RouteAudit

/-- A new run has errors exactly if duplicates are errors and two arrivals share their key. -/
theorem Settings.not_ok_outcome_iff (settings : Settings) (files : List SourceFile)
    (cancelled : Bool) :
    (settings.outcome files cancelled).ok = false ↔
      settings.duplicates = .error ∧ settings.Collides files := by
  have hfindings : (settings.outcome files cancelled).findings.length = 0 ↔
      ((settings.newEntries files).map Route.key).Nodup := by
    rw [← Route.refused_eq_nil_iff, outcome, List.length_map, List.length_eq_zero_iff]
  rw [← Bool.not_eq_true, settings.ok_outcome_iff, hfindings, settings.collides_iff_not_nodup,
    Classical.not_imp]

namespace Command

/-- An analysis tells of a new run over the files. -/
theorem analyse_eq_outcome (settings : Settings) (debug : Bool) (files : List SourceFile) :
    (analyse settings debug files).output = (settings.outcome files false).summary ++ "\n" ∧
      (analyse settings debug files).status =
        if (settings.outcome files false).ok then 0 else 1 := by
  -- Nothing was run before, so the run is new under whatever name it gets.
  have hnew : (Audit.reached settings []).ledger.runId ≠
      some ((Audit.reached settings []).nameRun none).1 := nofun
  obtain ⟨hresult, -⟩ := Audit.run_outcome_never hnew files
  have hsummary := AuditResult.summary_of_withoutStats hresult
  have hvalue := AuditResult.eq_of_withoutStats hresult
  have hok : ((Audit.reached settings []).run files none Audit.never).value.ok =
      (settings.outcome files false).ok := by
    rw [hvalue]
    rfl
  constructor
  · rw [← hsummary]
    rfl
  · rw [← hok]
    rfl

/-- What a check of files prints: the summary of a run over them. -/
def printed (settings : Settings) (files : List SourceFile) : String :=
  ((Audit.ofSettings settings).run files none Audit.never).value.summary ++ "\n"

/-- A check prints something. -/
theorem printed_ne_empty (settings : Settings) (files : List SourceFile) :
    printed settings files ≠ "" := by
  intro h
  simpa [printed] using congrArg String.toList h

/-- The names that are made up for runs do not show in the summary and the status. -/
theorem analyse_naming (settings : Settings) (runName : Nat → String) (debug : Bool)
    (files : List SourceFile) :
    (analyse (settings.naming runName) debug files).output = printed settings files ∧
      (analyse (settings.naming runName) debug files).status =
        (analyse settings debug files).status := by
  have houtcome : (settings.naming runName).outcome files false = settings.outcome files false := by
    apply Settings.outcome_congr
    all_goals rfl
  obtain ⟨houtput, hstatus⟩ := analyse_eq_outcome settings debug files
  obtain ⟨hnamedOutput, hnamedStatus⟩ := analyse_eq_outcome (settings.naming runName) debug files
  rw [houtcome] at hnamedOutput hnamedStatus
  exact ⟨hnamedOutput.trans houtput.symm, hnamedStatus.trans hstatus.symm⟩

/-- How a check of files ends that is printed. -/
structure Concludes (settings : Settings) (files : List SourceFile) (outcome : Outcome) : Prop where
  /-- It prints the summary of a run over the files, and nothing else. -/
  output : outcome.output = printed settings files
  /-- It fails with status one, if at all. -/
  status : outcome.status = 0 ∨ outcome.status = 1
  /-- It fails exactly if duplicates are errors and two arrivals share their key. -/
  fails_iff : outcome.status = 1 ↔ settings.duplicates = .error ∧ settings.Collides files

/-- Every analysis concludes a check of its files, whatever names are made up for runs. -/
theorem concludes_analyse (settings : Settings) (runName : Nat → String) (debug : Bool)
    (files : List SourceFile) :
    Concludes settings files (analyse (settings.naming runName) debug files) := by
  obtain ⟨houtput, hnamed⟩ := analyse_naming settings runName debug files
  obtain ⟨-, hstatus⟩ := analyse_eq_outcome settings debug files
  rw [hstatus] at hnamed
  constructor
  case output => exact houtput
  case status =>
    rw [hnamed]
    cases (settings.outcome files false).ok <;> simp
  case fails_iff =>
    rw [← settings.not_ok_outcome_iff files false, hnamed]
    cases (settings.outcome files false).ok <;> simp

namespace CheckFlags

variable {flags other : CheckFlags}

end CheckFlags

/-- A command line that asks for a check comes to this check. -/
theorem run_of_request {arguments : List String} {request : CheckRequest}
    (hrequest : CheckRequest.ofCommandLine arguments = .ok request) (machine : Machine)
    (disk : Disk) :
    run machine disk arguments = (Plan.ofRequest request).run machine disk := by
  unfold run Plan.ofCommandLine
  rw [hrequest]

/-- A check of a document that is read, under settings, comes to an analysis of its files, if the
output has a form for what this prints. -/
theorem run_of_sources {machine : Machine} {disk : Disk} {request : CheckRequest}
    {settings : Settings} {sources : List SourceFile}
    (hsettings : Settings.ofOptions request.flags.options = .ok settings)
    (hsources : SourceFile.load machine disk request.path = .ok sources) :
    (Plan.ofRequest request).run machine disk =
      match machine.printingError? (printed settings sources) with
      | some message => .error (.unprintable message)
      | none => .ok (analyse (settings.naming machine.runName) request.flags.debug sources) := by
  obtain ⟨houtput, -⟩ := analyse_naming settings machine.runName request.flags.debug sources
  have hprinted := printed_ne_empty settings sources
  cases hprints : machine.printingError? (printed settings sources) <;>
    simp only [Plan.ofRequest, hsettings, Plan.run, hsources, conclude, Outcome.print, houtput,
      if_neg hprinted, hprints]

end Command

end RouteAudit
