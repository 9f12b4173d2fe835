import RouteAudit.Proofs.KeySeparation
import RouteAudit.Proofs.Recurrences
import RouteAudit.Proofs.RunOutcomes

/-!
# Refusals

Which routes a run comes upon, and what is known of the routers by then, depends on the files and
on the bound on the depth of mounts, and on no other setting. The settings decide under which keys
the routes are entered, and thereby which of them are refused. So runs under different settings can
be compared route by route: by the places where refused routes stand.
-/

namespace RouteAudit

/-- A route that a run comes upon. -/
structure Arrival where
  /-- The number of the file, and the number of the event in the file. -/
  place : Nat × Nat
  /-- The path of the file. -/
  file : String
  /-- What is known about the routers at this place. -/
  routing : Routing
  registration : Registration
  deriving DecidableEq, Repr

namespace Routing

/-- The arrival that an event is, if it registers a route whose path is not blank. -/
def arrival? (routing : Routing) (place : Nat × Nat) (file : String) : Event → Option Arrival
  | .routeRegistered registration =>
      if Text.allBlank registration.path then none
      else some { place, file, routing, registration }
  | _ => none

/-- The arrivals among the events of a file, `done` events of the file having been taken. -/
def arrivalsOf (routing : Routing) (number done : Nat) (file : String) : List Event → List Arrival
  | [] => []
  | event :: rest =>
      (routing.arrival? (number, done) file event).toList ++
        (routing.advance event).arrivalsOf number (done + 1) file rest

/-- The arrivals in files, `done` other files having been taken. -/
def arrivals (routing : Routing) (done : Nat) : List SourceFile → List Arrival
  | [] => []
  | file :: rest =>
      (routing.beginFile file.path).state.arrivalsOf done 0 file.path file.events ++
        (routing.pass file).arrivals (done + 1) rest

variable {routing : Routing} {arrival : Arrival}

/-- An event that is an arrival registers its route, under a path that is not blank. -/
theorem eq_of_arrival? {place : Nat × Nat} {file : String} {event : Event}
    (h : routing.arrival? place file event = some arrival) :
    arrival.place = place ∧ event = .routeRegistered arrival.registration ∧
      Text.allBlank arrival.registration.path = false := by
  cases event with
  | routeRegistered registration =>
    simp only [arrival?] at h
    split at h
    · cases h
    · next hpath =>
      cases h
      exact ⟨rfl, rfl, by simpa using hpath⟩
  | _ => cases h

/-- An arrival stands at its place in the file. -/
theorem event_of_mem_arrivalsOf {number done : Nat} {file : String} {events : List Event}
    (h : arrival ∈ routing.arrivalsOf number done file events) :
    ∃ index, arrival.place = (number, done + index) ∧
      events[index]? = some (.routeRegistered arrival.registration) ∧
      Text.allBlank arrival.registration.path = false := by
  induction events generalizing routing done with
  | nil => exact absurd h List.not_mem_nil
  | cons event rest ih =>
    rcases List.mem_append.mp h with hone | hothers
    · obtain ⟨hplace, rfl, hpath⟩ := eq_of_arrival? (Option.mem_toList.mp hone)
      exact ⟨0, hplace, rfl, hpath⟩
    · obtain ⟨index, hplace, hevent⟩ := ih hothers
      exact ⟨index + 1, by rw [hplace, Nat.add_assoc, Nat.add_comm 1], hevent⟩

/-- An arrival stands at its place in the files. -/
theorem event_of_mem_arrivals {done : Nat} {files : List SourceFile}
    (h : arrival ∈ routing.arrivals done files) :
    ∃ number index file, arrival.place = (done + number, index) ∧ files[number]? = some file ∧
      file.events[index]? = some (.routeRegistered arrival.registration) ∧
      Text.allBlank arrival.registration.path = false := by
  induction files generalizing routing done with
  | nil => exact absurd h List.not_mem_nil
  | cons file rest ih =>
    rcases List.mem_append.mp h with hone | hothers
    · obtain ⟨index, hplace, hevent⟩ := event_of_mem_arrivalsOf hone
      exact ⟨0, index, file, by simpa using hplace, rfl, hevent⟩
    · obtain ⟨number, index, other, hplace, hother, hevent⟩ := ih hothers
      exact ⟨number + 1, index, other, by rw [hplace, Nat.add_assoc, Nat.add_comm 1], hother,
        hevent⟩

end Routing

namespace Settings

/-- The path at which the route of an arrival is reached. -/
def pathOf (settings : Settings) (arrival : Arrival) : String :=
  settings.fullPath arrival.routing arrival.registration

/-- The entry that an arrival makes. -/
def entryOf (settings : Settings) (arrival : Arrival) : Route :=
  settings.routeOf arrival.routing arrival.file arrival.registration

/-- The key of the entry that an arrival makes. -/
def keyOf (settings : Settings) (arrival : Arrival) : String :=
  (settings.entryOf arrival).key

/-- The arrivals of a new run over files. -/
def arrivals (settings : Settings) (files : List SourceFile) : List Arrival :=
  Routing.arrivals { maxDepth := settings.maxDepth } 0 files

/-- The arrivals of a new run that are refused, each with the first arrival under its key. -/
def refusals (settings : Settings) (files : List SourceFile) : List (Arrival × Arrival) :=
  recurring settings.keyOf (settings.arrivals files)

/-- The arrival that an event is makes the entry of the event. -/
theorem map_arrival? (settings : Settings) (routing : Routing) (place : Nat × Nat)
    (file : String) (event : Event) :
    (routing.arrival? place file event).map settings.entryOf =
      settings.entry? routing file event := by
  cases event with
  | routeRegistered registration =>
    simp only [Routing.arrival?, Settings.entry?]
    split <;> rfl
  | _ => rfl

/-- The events of a file make the entries of their arrivals. -/
theorem entriesOf_eq_map_arrivalsOf (settings : Settings) (file : String) (routing : Routing)
    (number done : Nat) (events : List Event) :
    settings.entriesOf file routing events =
      (routing.arrivalsOf number done file events).map settings.entryOf := by
  induction events generalizing routing done with
  | nil => rfl
  | cons event rest ih =>
    rw [entriesOf, Routing.arrivalsOf, List.map_append, ih (routing.advance event) (done + 1),
      ← settings.map_arrival? routing (number, done), Option.toList_map]

/-- Files make the entries of their arrivals. -/
theorem entries_eq_map_arrivals (settings : Settings) (routing : Routing) (done : Nat)
    (files : List SourceFile) :
    settings.entries routing files = (routing.arrivals done files).map settings.entryOf := by
  induction files generalizing routing done with
  | nil => rfl
  | cons file rest ih =>
    rw [entries, Routing.arrivals, List.map_append, ← ih,
      settings.entriesOf_eq_map_arrivalsOf file.path _ done 0]

/-- The refused entries of a new run are the entries of its refusals. -/
theorem refused_entries (settings : Settings) (files : List SourceFile) :
    Route.refused (settings.entries { maxDepth := settings.maxDepth } files) =
      (settings.refusals files).map (Prod.map settings.entryOf settings.entryOf) := by
  rw [Route.refused, Route.refusedAfter_eq_recurringAfter,
    settings.entries_eq_map_arrivals { maxDepth := settings.maxDepth } 0 files]
  exact recurringAfter_map settings.entryOf Route.key [] (settings.arrivals files)

end Settings

/-! ## Runs -/

/-- The result of a run tells of its refusals: the findings are about them, in order, and all other
arrivals are registered. -/
structure AuditResult.Tells (settings : Settings) (files : List SourceFile)
    (result : AuditResult) : Prop where
  findings : result.findings.map Finding.collision =
    (settings.refusals files).map (Prod.map settings.entryOf settings.entryOf)
  registered : result.routesRegistered + result.findings.length = (settings.arrivals files).length

/-- There are as many findings as refusals. -/
theorem AuditResult.Tells.length_findings {settings : Settings} {files : List SourceFile}
    {result : AuditResult} (h : result.Tells settings files) :
    result.findings.length = (settings.refusals files).length := by
  simpa using congrArg List.length h.findings

/-- **Runs tell of their refusals.** Whatever was done to an audit, a run under another name than
the current one reports its refusals and registers all other arrivals. -/
theorem Audit.run_tells (settings : Settings) (steps : List AuditStep) (files : List SourceFile)
    (runId : Option String)
    (hnew : (reached settings steps).ledger.runId ≠
      some ((reached settings steps).nameRun runId).1) :
    ((reached settings steps).run files runId never).value.Tells settings files := by
  obtain ⟨hresult, -⟩ := run_outcome_never hnew files
  rw [AuditResult.eq_of_withoutStats hresult]
  constructor
  case findings =>
    rw [← settings.refused_entries]
    exact settings.map_collision_duplicateOf _
  case registered =>
    have hall := Route.length_newcomersAfter_add_refusedAfter [] (settings.newEntries files)
    have harrivals : (settings.newEntries files).length = (settings.arrivals files).length := by
      rw [Settings.newEntries, settings.entries_eq_map_arrivals _ 0, List.length_map]
      rfl
    rw [← harrivals, ← hall]
    simp only [Settings.outcome, List.length_map]
    rfl

/-! ## Keys of arrivals -/

/-- The method of the route that an event registers. -/
def Event.method? : Event → Option String
  | .routeRegistered registration => some registration.method
  | _ => none

/-- No route that files register has a colon in its method. -/
def MethodsWithoutColon (files : List SourceFile) : Prop :=
  ∀ file ∈ files, ∀ event ∈ file.events, ∀ method ∈ event.method?, ':' ∉ method.toList

/-- Whether methods have colons can be tested. -/
instance (files : List SourceFile) : Decidable (MethodsWithoutColon files) :=
  inferInstanceAs (Decidable (∀ file ∈ files, ∀ event ∈ file.events, ∀ method ∈ event.method?,
    ':' ∉ method.toList))

namespace Settings

/-- The method of an arrival has no colon if no method in the files has. -/
theorem colon_notMem_of_mem_arrivals {settings : Settings} {files : List SourceFile}
    (hmethods : MethodsWithoutColon files) {arrival : Arrival}
    (h : arrival ∈ settings.arrivals files) : ':' ∉ arrival.registration.method.toList := by
  obtain ⟨number, index, file, -, hfile, hevent, -⟩ := Routing.event_of_mem_arrivals h
  exact hmethods file (List.mem_of_getElem? hfile) _ (List.mem_of_getElem? hevent) _ rfl

/-- Without colons in their methods, arrivals share their key exactly if they share the method and
the canonical form of the path. -/
theorem keyOf_eq_iff (settings : Settings) {files : List SourceFile}
    (hmethods : MethodsWithoutColon files) {a b : Arrival} (ha : a ∈ settings.arrivals files)
    (hb : b ∈ settings.arrivals files) :
    settings.keyOf a = settings.keyOf b ↔
      Text.upper a.registration.method = Text.upper b.registration.method ∧
        canonicalForm (settings.pathOf a) settings.level =
          canonicalForm (settings.pathOf b) settings.level := by
  have hplain : ∀ arrival ∈ settings.arrivals files, (settings.entryOf arrival).HasPlainMethod := by
    intro arrival harrival
    apply Route.hasPlainMethod_of_colon_notMem
    intro hcolon
    exact colon_notMem_of_mem_arrivals hmethods harrival (Text.colon_mem_of_upper hcolon)
  constructor
  · intro hkey
    exact Route.eq_of_key_eq (settings.canonical_routeOf _ _ _) (settings.canonical_routeOf _ _ _)
      (hplain a ha) (hplain b hb) hkey
  · rintro ⟨hmethod, hpath⟩
    have hsameMethod : (settings.entryOf a).method = (settings.entryOf b).method := hmethod
    have hsamePath : (settings.entryOf a).path = (settings.entryOf b).path := hpath
    rw [keyOf, keyOf, Route.key, Route.key, hsameMethod, hsamePath]

end Settings

end RouteAudit
