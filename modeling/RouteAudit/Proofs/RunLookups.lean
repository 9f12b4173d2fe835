import RouteAudit.Proofs.CacheLookups
import RouteAudit.Proofs.NewRuns

/-!
# Look-ups of a run

What the two memories of an audit are asked for while it takes files. A registration asks for the
path of its router, then for its form, and if it collides with an earlier one, perhaps for two more
forms. What is asked for is told from the routers and the registrations so far, so audits whose
settings differ in the sizes of their caches only ask for the same.
-/

namespace RouteAudit

/-- Look-ups in the two memories of an audit. -/
structure Lookups where
  forms : List (Lookup FormKey) := []
  joins : List (Lookup (List String)) := []
  deriving DecidableEq, Repr

namespace Lookups

/-- Look-ups one after another. -/
def followedBy (first second : Lookups) : Lookups :=
  ⟨first.forms ++ second.forms, first.joins ++ second.joins⟩

/-- The same keys are looked up, found or not. -/
structure SameKeys (lookups other : Lookups) : Prop where
  forms : lookups.forms.map Lookup.key = other.forms.map Lookup.key
  joins : lookups.joins.map Lookup.key = other.joins.map Lookup.key

/-- The same keys are looked up one after another. -/
theorem SameKeys.followedBy {first second other last : Lookups} (hfirst : first.SameKeys other)
    (hsecond : second.SameKeys last) : (first.followedBy second).SameKeys (other.followedBy last) :=
  ⟨by simp [Lookups.followedBy, hfirst.forms, hsecond.forms],
    by simp [Lookups.followedBy, hfirst.joins, hsecond.joins]⟩

end Lookups

/-! ## Normalizers and tables -/

namespace Normalizer

/-- The look-ups for the form of a path. -/
def lookups (normalizer : Normalizer) (path : String) (level : Level) (keep : Bool) :
    List (Lookup FormKey) :=
  if path = "" ∨ level = .raw then [] else [normalizer.cache.lookup ⟨path, level, keep⟩]

/-- The look-ups for a comparison. -/
def compareLookups (normalizer : Normalizer) (left right : String) (level : Level) :
    List (Lookup FormKey) :=
  match Verdict.bySegments? left right with
  | some _ => []
  | none =>
      normalizer.lookups left level false ++
        (normalizer.normalize left level false).2.lookups right level false

/-- Normalizing makes its look-ups. -/
theorem serves_normalize (normalizer : Normalizer) (path : String) (level : Level) (keep : Bool) :
    normalizer.cache.Serves (normalizer.lookups path level keep)
      (normalizer.normalize path level keep).2.cache := by
  unfold lookups normalize
  by_cases hpath : path = ""
  · rw [if_pos (.inl hpath), if_pos hpath]
    exact .nil _
  · cases level with
    | raw => simpa [hpath] using .nil _
    | relaxed | strict =>
      simp only [hpath, reduceCtorEq, or_self, if_false]
      exact Cache.serves_getOrCompute _ _ _

/-- Comparing makes its look-ups. -/
theorem serves_compare (normalizer : Normalizer) (left right : String) (level : Level) :
    normalizer.cache.Serves (normalizer.compareLookups left right level)
      (normalizer.compare left right level).2.cache := by
  have hleft := normalizer.serves_normalize left level false
  have hright := (normalizer.normalize left level false).2.serves_normalize right level false
  have hboth := hleft.append hright
  unfold compareLookups compare
  cases Verdict.bySegments? left right with
  | some verdict => exact .nil _
  | none =>
    cases level with
    | raw => simpa [lookups] using .nil _
    | relaxed | strict => exact hboth

/-- What is looked up for a form does not depend on the normalizer. -/
theorem map_key_lookups (normalizer other : Normalizer) (path : String) (level : Level)
    (keep : Bool) :
    (normalizer.lookups path level keep).map Lookup.key =
      (other.lookups path level keep).map Lookup.key := by
  unfold lookups
  split <;> rfl

/-- What is looked up for a comparison does not depend on the normalizer. -/
theorem map_key_compareLookups (normalizer other : Normalizer) (left right : String)
    (level : Level) :
    (normalizer.compareLookups left right level).map Lookup.key =
      (other.compareLookups left right level).map Lookup.key := by
  unfold compareLookups
  cases Verdict.bySegments? left right with
  | some verdict => rfl
  | none =>
    simp only [List.map_append]
    exact congrArg₂ _ (map_key_lookups _ _ _ _ _) (map_key_lookups _ _ _ _ _)

end Normalizer

namespace RouterTable

/-- The look-ups for the path of a router. -/
def lookups (table : RouterTable) (name : String) : List (Lookup (List String)) :=
  if (table.toRouting.mountsOf name).isEmpty then []
  else [table.joins.lookup (table.toRouting.mountsOf name)]

/-- Resolving a name makes its look-ups. -/
theorem serves_effectivePath (table : RouterTable) (name : String) :
    table.joins.Serves (table.lookups name) (table.effectivePath name).state.joins := by
  rw [(effectivePath_eq_joinMounts table name).2]
  unfold lookups joinMounts
  split
  · exact .nil _
  · exact table.joins.serves_getOrCompute _ _

/-- What is looked up for the path of a router goes by the routing. -/
theorem map_key_lookups {table other : RouterTable} (h : table.toRouting = other.toRouting)
    (name : String) :
    (table.lookups name).map Lookup.key = (other.lookups name).map Lookup.key := by
  unfold lookups
  simp only [h]
  split <;> rfl

end RouterTable

/-! ## Audits -/

namespace Audit

/-- The look-ups for the entry of a registration. -/
def entryLookups (audit : Audit) (registration : Registration) : Lookups :=
  let resolved := audit.effectivePath registration
  { forms := resolved.state.normalizer.lookups resolved.value audit.settings.level
      audit.settings.keepConstraints
    joins := registration.router.elim [] audit.table.lookups }

/-- The look-ups at a collision. -/
def collisionLookups (audit : Audit) (route first : Route) : Lookups :=
  { forms := audit.normalizer.compareLookups route.effectivePath first.path audit.settings.level }

/-- The look-ups for a registration. -/
def registrationLookups (audit : Audit) (file : String) (registration : Registration) : Lookups :=
  if Text.allBlank registration.path then {}
  else
    let made := audit.routeOf file registration
    let collision :=
      match (made.state.ledger.register made.value).1 with
      | none => {}
      | some first => made.state.collisionLookups made.value first
    (audit.entryLookups registration).followedBy collision

/-- The look-ups for an event. Routes alone ask for paths and forms. -/
def lookups (audit : Audit) (file : String) : Event → Lookups
  | .routeRegistered registration => audit.registrationLookups file registration
  | _ => {}

/-- The look-ups for the events of a file. -/
def eventsLookups (audit : Audit) (file : String) : List Event → Lookups
  | [] => {}
  | event :: rest =>
      (audit.lookups file event).followedBy ((audit.take file event).state.eventsLookups file rest)

/-- The look-ups for a file. -/
def fileLookups (audit : Audit) (file : SourceFile) : Lookups :=
  eventsLookups { audit with table := (audit.table.beginFile file.path).state } file.path
    file.events

/-- The look-ups for files, `done` others having been taken in the run. -/
def filesLookups (audit : Audit) (stop : Nat → Bool) (done : Nat) : List SourceFile → Lookups
  | [] => {}
  | file :: rest =>
      if stop done then {}
      else
        (audit.fileLookups file).followedBy
          ((audit.processFile file).state.filesLookups stop (done + 1) rest)

/-- The look-ups of a run. -/
def runLookups (audit : Audit) (files : List SourceFile) (runId : Option String)
    (stop : Nat → Bool) : Lookups :=
  (audit.beginRun runId).state.filesLookups stop 0 files

/-! ### What the memories become -/

/-- Asked for some look-ups, the memories of an audit become those of another one. -/
structure Serves (audit : Audit) (lookups : Lookups) (after : Audit) : Prop where
  forms : audit.normalizer.cache.Serves lookups.forms after.normalizer.cache
  joins : audit.table.joins.Serves lookups.joins after.table.joins

/-- An audit is asked more after it has been asked. -/
theorem Serves.followedBy {audit between after : Audit} {lookups more : Lookups}
    (h : audit.Serves lookups between) (hmore : between.Serves more after) :
    audit.Serves (lookups.followedBy more) after :=
  ⟨h.forms.append hmore.forms, h.joins.append hmore.joins⟩

/-- An audit that is asked for nothing keeps its memories. -/
theorem serves_nothing {audit after : Audit} (hnormalizer : after.normalizer = audit.normalizer)
    (hjoins : after.table.joins = audit.table.joins) : audit.Serves {} after := by
  constructor
  case forms =>
    rw [hnormalizer]
    exact .nil _
  case joins =>
    rw [hjoins]
    exact .nil _

/-- Making the entry of a registration makes its look-ups. -/
theorem serves_routeOf (audit : Audit) (file : String) (registration : Registration) :
    audit.Serves (audit.entryLookups registration) (audit.routeOf file registration).state := by
  have hstate := state_effectivePath audit registration
  have hsettings : (audit.effectivePath registration).state.settings = audit.settings :=
    (follows_effectivePath audit registration).settings
  constructor
  case forms =>
    have hform := (audit.effectivePath registration).state.normalizer.serves_normalize
      (audit.effectivePath registration).value audit.settings.level audit.settings.keepConstraints
    have hnormalizer : (audit.effectivePath registration).state.normalizer = audit.normalizer := by
      rw [hstate]
      cases registration.router <;> rfl
    unfold routeOf entryLookups
    simp only [hsettings]
    rwa [hnormalizer] at hform ⊢
  case joins =>
    change audit.table.joins.Serves (registration.router.elim [] audit.table.lookups)
      (audit.effectivePath registration).state.table.joins
    rw [hstate]
    cases registration.router with
    | none => exact .nil _
    | some router => exact audit.table.serves_effectivePath router

/-- A collision makes its look-ups. -/
theorem serves_collide (audit : Audit) (route first : Route) :
    audit.Serves (audit.collisionLookups route first) (audit.collide route first).state :=
  ⟨audit.normalizer.serves_compare _ _ _, .nil _⟩

/-- A registration makes its look-ups. -/
theorem serves_register (audit : Audit) (file : String) (registration : Registration) :
    audit.Serves (audit.registrationLookups file registration)
      (audit.register file registration).state := by
  unfold registrationLookups register
  split
  · exact serves_nothing rfl rfl
  · have hmade := audit.serves_routeOf file registration
    rcases hentered : (audit.routeOf file registration).state.ledger.register
      (audit.routeOf file registration).value with ⟨existing, ledger⟩
    simp only [hentered]
    cases existing with
    | none => exact hmade.followedBy (serves_nothing rfl rfl)
    | some first =>
      have hcollide := serves_collide { (audit.routeOf file registration).state with ledger }
        (audit.routeOf file registration).value first
      exact hmade.followedBy ⟨hcollide.forms, hcollide.joins⟩

/-- An event makes its look-ups. -/
theorem serves_take (audit : Audit) (file : String) (event : Event) :
    audit.Serves (audit.lookups file event) (audit.take file event).state := by
  cases event with
  | routeRegistered registration => exact audit.serves_register file registration
  | _ => exact serves_nothing rfl rfl

/-- The events of a file make their look-ups. -/
theorem serves_takeAll (audit : Audit) (file : String) (events : List Event) :
    audit.Serves (audit.eventsLookups file events) (audit.takeAll file events).state := by
  induction events generalizing audit with
  | nil => exact serves_nothing rfl rfl
  | cons event rest ih => exact (audit.serves_take file event).followedBy (ih _)

/-- A file makes its look-ups. -/
theorem serves_processFile (audit : Audit) (file : SourceFile) :
    audit.Serves (audit.fileLookups file) (audit.processFile file).state := by
  have hevents := serves_takeAll { audit with table := (audit.table.beginFile file.path).state }
    file.path file.events
  exact ⟨hevents.forms, hevents.joins⟩

/-- Files make their look-ups, up to where they are stopped. -/
theorem serves_processFiles (audit : Audit) (stop : Nat → Bool) (done : Nat)
    (files : List SourceFile) :
    audit.Serves (audit.filesLookups stop done files)
      (audit.processFiles stop done files).state := by
  induction files generalizing audit done with
  | nil => exact serves_nothing rfl rfl
  | cons file rest ih =>
    unfold filesLookups processFiles
    split
    · exact serves_nothing rfl rfl
    · exact (audit.serves_processFile file).followedBy (ih _ _)

end Audit

end RouteAudit
