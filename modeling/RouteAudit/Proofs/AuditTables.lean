import RouteAudit.Proofs.CacheHistories
import RouteAudit.Proofs.CacheTransparency
import RouteAudit.Proofs.RoutingConsistency
import RouteAudit.Proofs.RunContinuation

/-!
# Tables of audits

Whatever an audit is asked for, its settings stay, and its table of routers becomes what some calls
make of it. So everything that holds of tables over histories of calls holds of the tables of
audits. An audit may also be reached through its parts: its table, its ledger and its normalizer.
-/

namespace RouteAudit

namespace Cache

variable {κ α : Type} [DecidableEq κ]

/-- Computing a missing value does not change how much a cache can hold. -/
theorem capacity_getOrCompute (cache : Cache κ α) (key : κ) (compute : Unit → α) :
    (cache.getOrCompute key compute).2.capacity = cache.capacity := by
  have hget := cache.capacity_get key
  unfold getOrCompute
  split
  · next value asked heq => rwa [heq] at hget
  · next asked heq =>
    rw [heq] at hget
    exact hget

end Cache

namespace RouterTable

/-- A call does not change how many joins a table can remember. -/
theorem capacity_perform (table : RouterTable) (call : RouterCall) :
    (table.perform call).2.joins.capacity = table.joins.capacity := by
  cases call with
  | effectivePath name =>
    change (table.effectivePath name).state.joins.capacity = _
    rw [(effectivePath_eq_joinMounts table name).2]
    unfold joinMounts
    split
    · rfl
    · exact Cache.capacity_getOrCompute _ _ _
  | _ => rfl

/-- Calls do not change how many joins a table can remember. -/
theorem capacity_performAll (table : RouterTable) (calls : List RouterCall) :
    (table.performAll calls).2.joins.capacity = table.joins.capacity := by
  induction calls generalizing table with
  | nil => rfl
  | cons call rest ih => exact (ih _).trans (table.capacity_perform call)

/-- Calls do not change the bound on the depth of mounts. -/
theorem maxDepth_performAll (table : RouterTable) (calls : List RouterCall) :
    (table.performAll calls).2.maxDepth = table.maxDepth :=
  (Routing.reaches_performAll table calls).maxDepth_eq

end RouterTable

/-- Something that is done to an audit, or to one of its parts. -/
inductive AuditStep where
  | call (call : Call)
  | tableCall (call : RouterCall)
  | enterRoute (route : Route)
  | beginLedger (runId : String)
  | clearLedger
  | compare (left right : String) (level : Level)
  | clearForms

namespace Audit

/-- The audit after a step. -/
def step (audit : Audit) : AuditStep → Audit
  | .call call => (audit.perform call).2
  | .tableCall call => { audit with table := (audit.table.perform call).2 }
  | .enterRoute route => { audit with ledger := (audit.ledger.register route).2 }
  | .beginLedger runId => { audit with ledger := audit.ledger.beginRun runId }
  | .clearLedger => { audit with ledger := audit.ledger.clear }
  | .compare left right level =>
      { audit with normalizer := (audit.normalizer.compare left right level).2 }
  | .clearForms => { audit with normalizer := ⟨audit.normalizer.cache.clear⟩ }

/-- The audit under given settings that steps lead to. -/
def reached (settings : Settings) (steps : List AuditStep) : Audit :=
  steps.foldl step (ofSettings settings)

/-- An audit goes on from another one: the settings are the same, and the table is what calls make
of the other table. -/
structure Follows (audit next : Audit) : Prop where
  settings : next.settings = audit.settings
  table : ∃ calls : List RouterCall, next.table = (audit.table.performAll calls).2

variable {audit middle next : Audit}

/-- An audit goes on from one with the same settings and the same table. -/
theorem Follows.of_eq (hsettings : next.settings = audit.settings)
    (htable : next.table = audit.table) : audit.Follows next :=
  ⟨hsettings, [], htable⟩

/-- An audit goes on from one whose table was asked once more. -/
theorem Follows.of_call (hsettings : next.settings = audit.settings) (call : RouterCall)
    (htable : next.table = (audit.table.perform call).2) : audit.Follows next :=
  ⟨hsettings, [call], htable⟩

/-- An audit goes on from what another one went on from. -/
theorem Follows.trans (first : audit.Follows middle) (second : middle.Follows next) :
    audit.Follows next := by
  obtain ⟨calls, htable⟩ := first.table
  obtain ⟨more, hmore⟩ := second.table
  refine ⟨second.settings.trans first.settings, calls ++ more, ?_⟩
  rw [RouterTable.performAll_append, ← htable]
  exact hmore

/-- Resolving the path of a registration asks the table for the path of its router. -/
theorem follows_effectivePath (audit : Audit) (registration : Registration) :
    audit.Follows (audit.effectivePath registration).state := by
  rw [state_effectivePath]
  cases registration.router with
  | none => exact .of_eq rfl rfl
  | some router => exact .of_call rfl (.effectivePath router) rfl

/-- Entering a route asks the table for the path of its router. -/
theorem follows_register (audit : Audit) (file : String) (registration : Registration) :
    audit.Follows (audit.register file registration).state := by
  have hresolved := audit.follows_effectivePath registration
  have hmade : (audit.effectivePath registration).state.Follows
      (audit.routeOf file registration).state := .of_eq rfl rfl
  unfold register
  split
  · exact .of_eq rfl rfl
  · simp only
    split
    · exact hresolved.trans (hmade.trans (.of_eq rfl rfl))
    · exact hresolved.trans (hmade.trans (.of_eq rfl rfl))

/-- An event is one call of the table at most. -/
theorem follows_take (audit : Audit) (file : String) (event : Event) :
    audit.Follows (audit.take file event).state := by
  cases event with
  | routerCreated identifier callee framework =>
    exact .of_call rfl (.createRouter identifier callee framework) rfl
  | mountAttempted callee arguments => exact .of_call rfl (.mount callee arguments) rfl
  | routerExported identifier => exact .of_call rfl (.exportRouter identifier) rfl
  | routerImported importedName localName source =>
    exact .of_call rfl (.importRouter importedName localName source) rfl
  | routeRegistered registration => exact audit.follows_register file registration

/-- An audit goes on over the events of a file. -/
theorem follows_takeAll (audit : Audit) (file : String) (events : List Event) :
    audit.Follows (audit.takeAll file events).state := by
  induction events generalizing audit with
  | nil => exact .of_eq rfl rfl
  | cons event rest ih => exact (audit.follows_take file event).trans (ih _)

/-- An audit goes on over a file. -/
theorem follows_processFile (audit : Audit) (file : SourceFile) :
    audit.Follows (audit.processFile file).state := by
  have hbegun : audit.Follows { audit with table := (audit.table.beginFile file.path).state } :=
    .of_call rfl (.beginFile file.path) rfl
  exact hbegun.trans (follows_takeAll _ file.path file.events)

/-- An audit goes on over files, wherever the signal stops it. -/
theorem follows_processFiles (audit : Audit) (stop : Nat → Bool) (done : Nat)
    (files : List SourceFile) :
    audit.Follows (audit.processFiles stop done files).state := by
  induction files generalizing audit done with
  | nil => exact .of_eq rfl rfl
  | cons file rest ih =>
    unfold processFiles
    split
    · exact .of_eq rfl rfl
    · exact (audit.follows_processFile file).trans (ih _ _)

/-- Naming a run counts the names that are made up, and changes nothing else. -/
theorem exists_nameRun_eq (audit : Audit) (runId : Option String) :
    ∃ issued, (audit.nameRun runId).2 = { audit with issued } := by
  cases runId with
  | none => exact ⟨audit.issued + 1, rfl⟩
  | some name =>
    unfold nameRun
    by_cases hname : name = ""
    · simp only [if_pos hname]
      exact ⟨audit.issued + 1, rfl⟩
    · simp only [if_neg hname]
      exact ⟨audit.issued, rfl⟩

/-- A run begins with the table as it is, or with a new one. -/
theorem follows_beginRun (audit : Audit) (runId : Option String) :
    audit.Follows (audit.beginRun runId).state := by
  obtain ⟨issued, hnamed⟩ := audit.exists_nameRun_eq runId
  unfold beginRun
  simp only [hnamed]
  split
  · exact .of_eq rfl rfl
  · exact .of_call rfl .reset rfl

/-- An audit goes on over a run. -/
theorem follows_run (audit : Audit) (files : List SourceFile) (runId : Option String)
    (stop : Nat → Bool) : audit.Follows (audit.run files runId stop).state :=
  (audit.follows_beginRun runId).trans (follows_processFiles _ stop 0 files)

/-- An audit goes on over every call. -/
theorem follows_perform (audit : Audit) (call : Call) : audit.Follows (audit.perform call).2 := by
  cases call with
  | beginRun runId => exact audit.follows_beginRun runId
  | run files runId stop => exact audit.follows_run files runId stop
  | processFile file => exact audit.follows_processFile file
  | normalize path level keepConstraints => exact .of_eq rfl rfl
  | effectivePath name => exact .of_call rfl (.effectivePath name) rfl
  | routes => exact .of_eq rfl rfl

/-- An audit goes on over every step. -/
theorem follows_step (audit : Audit) (step : AuditStep) : audit.Follows (audit.step step) := by
  cases step with
  | call call => exact audit.follows_perform call
  | tableCall call => exact .of_call rfl call rfl
  | _ => exact .of_eq rfl rfl

/-- With sound memories, an audit keeps them over every step. -/
theorem Sound.step (h : audit.Sound) (step : AuditStep) : (audit.step step).Sound := by
  cases step with
  | call call => exact (h.perform call).2.2
  | tableCall call => exact ⟨h.normalizer, h.table.perform call⟩
  | compare left right level => exact ⟨h.normalizer.compare left right level, h.table⟩
  | clearForms => exact ⟨Cache.sound_clear _, h.table⟩
  | _ => exact ⟨h.normalizer, h.table⟩

/-- What steps lead to goes on from the beginning, with sound memories. -/
theorem follows_reached (settings : Settings) (steps : List AuditStep) :
    (ofSettings settings).Follows (reached settings steps) ∧ (reached settings steps).Sound := by
  induction steps using List.reverseRecOn with
  | nil => exact ⟨.of_eq rfl rfl, sound_ofSettings settings⟩
  | append_singleton steps step ih =>
    obtain ⟨hfollows, hsound⟩ := ih
    unfold reached at hfollows hsound ⊢
    rw [List.foldl_append, List.foldl_cons, List.foldl_nil]
    exact ⟨hfollows.trans (follows_step _ step), hsound.step step⟩

/-- In every audit that steps lead to, names and exports say of routers what is the case. -/
theorem consistent_reached (settings : Settings) (steps : List AuditStep) :
    (reached settings steps).table.toRouting.Consistent := by
  obtain ⟨-, calls, htable⟩ := (follows_reached settings steps).1
  rw [htable]
  exact (Routing.consistent_empty settings.maxDepth).reaches
    (Routing.reaches_performAll (ofSettings settings).table calls)

end Audit

end RouteAudit
