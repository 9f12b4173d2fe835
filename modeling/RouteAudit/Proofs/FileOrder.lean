import RouteAudit.Proofs.Newcomers
import RouteAudit.Proofs.OwnRouters

/-!
# The order of files

Without exports the entries of a run are those of its files, one file after another. In another
order of the files, other entries may come first under their keys. But as many entries are under
every key, and so as many are refused.
-/

namespace RouteAudit

namespace Settings

/-- Without exports, files in another order make the same entries in another order. -/
theorem perm_newEntries (settings : Settings) {files others : List SourceFile}
    (hperm : files.Perm others) (hfiles : WithoutExports files) :
    (settings.newEntries files).Perm (settings.newEntries others) := by
  have hothers : WithoutExports others := fun file hfile => hfiles file (hperm.mem_iff.mpr hfile)
  rw [settings.newEntries_eq_flatMap hfiles, settings.newEntries_eq_flatMap hothers]
  exact hperm.flatMap_right _

/-- The keys of the routes that a new run reports. -/
theorem map_key_findings (settings : Settings) (files : List SourceFile) (cancelled : Bool) :
    (settings.outcome files cancelled).findings.map (·.route.key) =
      ((Route.refused (settings.newEntries files)).map Prod.fst).map Route.key := by
  rw [outcome, List.map_map, List.map_map]
  rfl

end Settings

namespace Audit

/-- Two runs come to the same in another order: the ledgers have the same keys, and as many routes
are refused under every key. -/
structure SameButOrder (done other : Traced Audit AuditResult) : Prop where
  keys : (done.state.ledger.routes.map Route.key).Perm (other.state.ledger.routes.map Route.key)
  routesRegistered : done.value.routesRegistered = other.value.routesRegistered
  filesProcessed : done.value.filesProcessed = other.value.filesProcessed
  ok : done.value.ok = other.value.ok
  findings : ∀ key : String, done.value.findings.countP (·.route.key == key) =
    other.value.findings.countP (·.route.key == key)

/-- **The order of files does not matter without exports.** Whatever was done to two audits under
the same settings, new runs over files that export no router, in two orders, come to the same in
another order. -/
theorem file_order_indifferent (settings : Settings) (steps otherSteps : List AuditStep)
    {files others : List SourceFile} (runId otherRunId : Option String)
    (hperm : files.Perm others) (hfiles : WithoutExports files)
    (hnew : (reached settings steps).ledger.runId ≠
      some ((reached settings steps).nameRun runId).1)
    (hotherNew : (reached settings otherSteps).ledger.runId ≠
      some ((reached settings otherSteps).nameRun otherRunId).1) :
    SameButOrder ((reached settings steps).run files runId never)
      ((reached settings otherSteps).run others otherRunId never) := by
  obtain ⟨hresult, hroutes⟩ := run_outcome_never hnew files
  obtain ⟨hother, hotherRoutes⟩ := run_outcome_never hotherNew others
  have hentries := settings.perm_newEntries hperm hfiles
  have hkeys := Route.perm_keys_newcomers hentries
  have hreported : ((settings.outcome files false).findings.map (·.route.key)).Perm
      ((settings.outcome others false).findings.map (·.route.key)) := by
    rw [settings.map_key_findings, settings.map_key_findings]
    exact Route.perm_keys_refused hentries
  have hlength : (settings.outcome files false).findings.length =
      (settings.outcome others false).findings.length := by
    simpa only [List.length_map] using hreported.length_eq
  have hdone := AuditResult.eq_of_withoutStats hresult
  have hotherDone := AuditResult.eq_of_withoutStats hother
  constructor
  case keys => rwa [hroutes, hotherRoutes]
  case routesRegistered =>
    have hcount := hkeys.length_eq
    rw [List.length_map, List.length_map] at hcount
    rw [hdone, hotherDone]
    exact hcount
  case filesProcessed =>
    rw [hdone, hotherDone]
    exact hperm.length_eq
  case ok =>
    have hok : (settings.outcome files false).ok = (settings.outcome others false).ok := by
      rw [Bool.eq_iff_iff, settings.ok_outcome_iff, settings.ok_outcome_iff, hlength]
    rw [hdone, hotherDone]
    exact hok
  case findings =>
    intro key
    have hcount := hreported.countP_eq (· == key)
    rw [List.countP_map, List.countP_map] at hcount
    rw [hdone, hotherDone]
    exact hcount

/-- Two files that register one route: the first one on a router of its own, the second one
without a router. -/
def mountedAndWritten : List SourceFile :=
  [{ path := "a.js", events :=
      [.routerCreated "r" { name := "Router" } "express",
        .mountAttempted { name := "use", receiver := some "app" }
          [{ kind := .literal, value := some "/api" }, { kind := .identifier, value := some "r" }],
        .routeRegistered { method := "get", path := "/x", router := some "r" }] },
    { path := "b.js", events := [.routeRegistered { method := "get", path := "/api/x" }] }]

/-- Whichever file comes first, one route is registered and one is refused. -/
theorem file_order_indifferent_mountedAndWritten :
    mountedAndWritten.Perm mountedAndWritten.reverse ∧ WithoutExports mountedAndWritten ∧
      SameButOrder ((reached .default []).run mountedAndWritten (some "one") never)
        ((reached .default []).run mountedAndWritten.reverse (some "one") never) ∧
      ((reached .default []).run mountedAndWritten (some "one") never).value.findings.countP
        (·.route.key == "GET:/api/x") = 1 := by
  have hperm : mountedAndWritten.Perm mountedAndWritten.reverse :=
    (List.reverse_perm mountedAndWritten).symm
  have hfiles : WithoutExports mountedAndWritten := by decide
  exact ⟨hperm, hfiles,
    file_order_indifferent .default [] [] (some "one") (some "one") hperm hfiles nofun nofun,
    by decide +kernel⟩

end Audit

end RouteAudit
