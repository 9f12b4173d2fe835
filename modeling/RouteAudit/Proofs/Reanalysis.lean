import RouteAudit.Proofs.Newcomers
import RouteAudit.Proofs.OwnRouters

/-!
# Taking files again in one run

The ledger of a run keeps its registrations when files are taken again under the name of the run,
and it does not tell the registration of an event from that of another event under the same key. A
route that is registered already is therefore reported as a duplicate of itself.
-/

namespace RouteAudit

namespace Settings

/-- The entries that files make when others have been taken before them in a new run. -/
def laterEntries (settings : Settings) (files more : List SourceFile) : List Route :=
  settings.entries (files.foldl Routing.pass { maxDepth := settings.maxDepth }) more

/-- Entries of two lists of files, the second after the first. -/
theorem entries_append (settings : Settings) (routing : Routing) (files more : List SourceFile) :
    settings.entries routing (files ++ more) =
      settings.entries routing files ++
        settings.entries (files.foldl Routing.pass routing) more := by
  induction files generalizing routing with
  | nil => rfl
  | cons file rest ih =>
    rw [List.cons_append, entries, entries, ih, List.append_assoc, List.foldl_cons]

/-- The entries of a new run over two lists of files. -/
theorem newEntries_append (settings : Settings) (files more : List SourceFile) :
    settings.newEntries (files ++ more) =
      settings.newEntries files ++ settings.laterEntries files more :=
  settings.entries_append _ files more

/-- Without exports, files that are taken later make the entries of a new run over them. -/
theorem laterEntries_eq (settings : Settings) {files more : List SourceFile}
    (hfiles : WithoutExports (files ++ more)) :
    settings.laterEntries files more = settings.newEntries more := by
  have hfirst : WithoutExports files := fun file hfile => hfiles file (List.mem_append_left _ hfile)
  have hmore : WithoutExports more := fun file hfile => hfiles file (List.mem_append_right _ hfile)
  have hall := settings.newEntries_append files more
  rw [settings.newEntries_eq_flatMap hfiles, List.flatMap_append,
    ← settings.newEntries_eq_flatMap hfirst, ← settings.newEntries_eq_flatMap hmore] at hall
  exact (List.append_cancel_left hall).symm

/-- Without exports, files among others make some of their entries. -/
theorem newEntries_subset (settings : Settings) {files more : List SourceFile}
    (hfiles : WithoutExports files) (hmore : ∀ file ∈ more, file ∈ files) :
    ∀ route ∈ settings.newEntries more, route ∈ settings.newEntries files := by
  intro route hroute
  have hmoreFiles : WithoutExports more := fun file hfile => hfiles file (hmore file hfile)
  rw [settings.newEntries_eq_flatMap hmoreFiles] at hroute
  obtain ⟨file, hfile, hentry⟩ := List.mem_flatMap.mp hroute
  rw [settings.newEntries_eq_flatMap hfiles]
  exact List.mem_flatMap.mpr ⟨file, hmore file hfile, hentry⟩

/-- Without exports, files that are taken again make entries that are all refused. -/
theorem laterEntries_again (settings : Settings) {files again : List SourceFile}
    (hfiles : WithoutExports files) (hagain : ∀ file ∈ again, file ∈ files) :
    settings.laterEntries files again = settings.newEntries again ∧
      Route.newcomersAfter (settings.newEntries files) (settings.laterEntries files again) = [] ∧
      (Route.refusedAfter (settings.newEntries files)
        (settings.laterEntries files again)).map Prod.fst = settings.laterEntries files again := by
  have hall : WithoutExports (files ++ again) := by
    intro file hfile
    rcases List.mem_append.mp hfile with hold | hold
    · exact hfiles file hold
    · exact hfiles file (hagain file hold)
  have hlater := settings.laterEntries_eq hall
  refine ⟨hlater, Route.newcomersAfter_of_known ?_⟩
  intro route hroute
  rw [hlater] at hroute
  exact List.mem_map_of_mem (settings.newEntries_subset hfiles hagain route hroute)

end Settings

namespace Audit

/-- The ledger of a new run gives the first entry under a key. -/
theorem find?_run_of_new {settings : Settings} {steps : List AuditStep} {runId : Option String}
    (hnew : (reached settings steps).ledger.runId ≠
      some ((reached settings steps).nameRun runId).1)
    (files : List SourceFile) (key : String) :
    ((reached settings steps).run files runId never).state.ledger.find? key =
      Route.earliest? (settings.newEntries files) key := by
  obtain ⟨-, hroutes⟩ := run_outcome_never hnew files
  rw [← Route.earliest?_newcomers, ← hroutes]
  rfl

/-- A run that goes on under the name of a new run registers the newcomers among its entries, behind
those of the new run, and reports the others. -/
theorem run_later {settings : Settings} {steps : List AuditStep} {name : String} (hname : name ≠ "")
    (hnew : (reached settings steps).ledger.runId ≠
      some ((reached settings steps).nameRun (some name)).1)
    (files more : List SourceFile) :
    (((reached settings steps).run files (some name) never).state.run more (some name)
        never).value.findings =
      (Route.refusedAfter (settings.newEntries files) (settings.laterEntries files more)).map
        settings.duplicateOf ∧
    (((reached settings steps).run files (some name) never).state.run more (some name)
        never).state.ledger.routes =
      Route.newcomers (settings.newEntries files) ++
        Route.newcomersAfter (settings.newEntries files) (settings.laterEntries files more) := by
  have hcompletes := completes_append (reached settings steps) hname files more
  obtain ⟨hfirst, -⟩ := run_outcome_never hnew files
  obtain ⟨hwhole, hroutes⟩ := run_outcome_never hnew (files ++ more)
  have hfirstFound : ((reached settings steps).run files (some name) never).value.findings =
      (settings.outcome files false).findings := congrArg Answer.allFindings hfirst
  have hwholeFound : ((reached settings steps).run (files ++ more) (some name)
      never).value.findings = (settings.outcome (files ++ more) false).findings :=
    congrArg Answer.allFindings hwhole
  constructor
  · have hfound := hcompletes.findings
    rw [hfirstFound, hwholeFound] at hfound
    simp only [Settings.outcome, settings.newEntries_append, Route.refused,
      Route.refusedAfter_append, List.nil_append, List.map_append] at hfound
    exact List.append_cancel_left hfound
  · rw [hcompletes.state, hroutes, settings.newEntries_append]
    exact Route.newcomersAfter_append [] _ _

/-- What comes of files that are taken again in a run. -/
structure ReportsAgain (settings : Settings) (files again : List SourceFile)
    (first second : Traced Audit AuditResult) : Prop where
  /-- An entry that is made again is reported, against the registration under its key. -/
  reported : ∀ route ∈ settings.laterEntries files again, route ∈ settings.newEntries files →
    ∃ earlier, first.state.ledger.find? route.key = some earlier ∧
      settings.duplicateOf (route, earlier) ∈ second.value.findings
  /-- An entry that was registered is reported against itself. -/
  itself : ∀ route ∈ settings.laterEntries files again, route ∈ first.state.ledger.routes →
    settings.duplicateOf (route, route) ∈ second.value.findings
  /-- Without exports, all entries of the files are reported. -/
  findings : WithoutExports files →
    second.value.findings.map Finding.route = settings.newEntries again
  /-- Without exports, nothing more is registered. -/
  ledger : WithoutExports files → second.state.ledger = first.state.ledger

/-- **Taking files again.** Whatever was done to an audit, let files be taken in a new run, and some
of them again under its name. Every entry that is made again is reported, and an entry that was
registered is reported as a duplicate of itself. Without exports, the files taken again have all of
their entries reported, and the ledger stays as it is: nothing is reported exactly if there are no
entries. -/
theorem reanalysis_reports_again (settings : Settings) (steps : List AuditStep)
    {files again : List SourceFile} {name : String} (hname : name ≠ "")
    (hagain : ∀ file ∈ again, file ∈ files)
    (hnew : (reached settings steps).ledger.runId ≠
      some ((reached settings steps).nameRun (some name)).1) :
    ReportsAgain settings files again ((reached settings steps).run files (some name) never)
      (((reached settings steps).run files (some name) never).state.run again (some name)
        never) := by
  obtain ⟨hfound, hroutes⟩ := run_later hname hnew files again
  obtain ⟨-, hregistered⟩ := run_outcome_never hnew files
  -- The first entry under the key of a route that is made again is what the route is refused for.
  have hrefused : ∀ route ∈ settings.laterEntries files again, ∀ earlier,
      Route.earliest? (settings.newEntries files) route.key = some earlier →
        settings.duplicateOf (route, earlier) ∈ (((reached settings steps).run files (some name)
          never).state.run again (some name) never).value.findings := by
    intro route hroute earlier hearlier
    rw [hfound]
    exact List.mem_map_of_mem (Route.mem_refusedAfter hroute hearlier)
  constructor
  case reported =>
    intro route hroute hmade
    obtain ⟨earlier, hearlier⟩ := Option.isSome_iff_exists.mp
      (Route.isSome_earliest?_iff.mpr (List.mem_map_of_mem hmade))
    exact ⟨earlier, (find?_run_of_new hnew files route.key).trans hearlier,
      hrefused route hroute earlier hearlier⟩
  case itself =>
    intro route hroute hmem
    rw [hregistered] at hmem
    exact hrefused route hroute route (Route.earliest?_of_mem_newcomers hmem)
  case findings =>
    intro hfiles
    obtain ⟨hlater, -, hall⟩ := settings.laterEntries_again hfiles hagain
    rw [hfound, List.map_map, ← hlater]
    exact hall
  case ledger =>
    intro hfiles
    obtain ⟨-, hnone, -⟩ := settings.laterEntries_again hfiles hagain
    apply Ledger.eq_of_fields_eq
    · rw [hroutes, hnone, List.append_nil, hregistered]
    · rw [runId_run _ _ hname, runId_run _ _ hname]

/-- A file that registers one route. -/
def registeredOnce : SourceFile :=
  { path := "a.js"
    events := [.routeRegistered { method := "get", path := "/x", line := .number 1 }] }

/-- Nothing is found in the file at first, and when it is taken again, its route is reported as a
duplicate of itself. -/
theorem reanalysis_reports_again_registeredOnce :
    "one" ≠ "" ∧ (∀ file ∈ [registeredOnce], file ∈ [registeredOnce]) ∧
      ReportsAgain .default [registeredOnce] [registeredOnce]
        ((reached .default []).run [registeredOnce] (some "one") never)
        (((reached .default []).run [registeredOnce] (some "one") never).state.run [registeredOnce]
          (some "one") never) ∧
      ((reached .default []).run [registeredOnce] (some "one") never).value.findings = [] ∧
      WithoutExports [registeredOnce] ∧
      (Settings.default.newEntries [registeredOnce]).length = 1 := by
  have hname : "one" ≠ "" := by decide
  have hagain : ∀ file ∈ [registeredOnce], file ∈ [registeredOnce] := fun _ hfile => hfile
  exact ⟨hname, hagain, reanalysis_reports_again .default [] hname hagain nofun, by decide +kernel,
    by decide, by decide +kernel⟩

/-- It is not the case that no file of a run, when it is taken again, has a route reported against
the registration of the same place. -/
theorem not_forall_reanalysis_quiet :
    ¬∀ (settings : Settings) (files : List SourceFile) (file : SourceFile), file ∈ files →
      ∀ finding ∈ (((ofSettings settings).run files (some "one") never).state.processFile
          file).value,
        (finding.route.file, finding.route.line, finding.route.column) ≠
          (finding.first.file, finding.first.line, finding.first.column) := by
  intro hquiet
  have hone := hquiet .default [registeredOnce] registeredOnce (List.mem_singleton_self _)
  revert hone
  decide +kernel

end Audit

end RouteAudit
