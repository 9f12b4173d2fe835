import RouteAudit.Audit
import RouteAudit.Proofs.RouterHistories

/-!
# Inert events

Some events are passed over: imports, calls of other functions than those that create routers,
mounts that are not understood or not accepted, exports of unknown names, and routes without a path.
Whether an event is one of them may depend on what is known when it is taken. A file without some of
its inert events is found to be the same as with them, and leaves the same behind, up to the imports
that are noted.
-/

namespace RouteAudit

/-- What an operation leaves, with its state changed. -/
def Traced.mapState {σ α : Type} (change : σ → σ) (done : Traced σ α) : Traced σ α :=
  { done with state := change done.state }

/-! ## What inert events are -/

/-- A call of a function that mounts no router anywhere. -/
inductive Routing.InertMount (routing : Routing) (callee : Callee) : List Argument → Prop where
  /-- It is no call of `use` on a receiver with two arguments or more. -/
  | otherCall {arguments : List Argument}
      (hother : callee.receiver = none ∨ callee.name ≠ "use" ∨ arguments.length < 2) :
      InertMount routing callee arguments
  | dynamicPath {path : Argument} {others : List Argument} (hpath : path.staticText? = none) :
      InertMount routing callee (path :: others)
  | rootPath {path : Argument} {others : List Argument}
      (hpath : path.staticText? = some "" ∨ path.staticText? = some "/") :
      InertMount routing callee (path :: others)
  | noName {path target : Argument} {others : List Argument}
      (htarget : target.kind ≠ .identifier ∨ target.value = none) :
      InertMount routing callee (path :: target :: others)
  | unknownName {path target : Argument} {others : List Argument} {name : String}
      (htarget : target.value = some name) (hlocal : routing.local? name = none) :
      InertMount routing callee (path :: target :: others)
  | tooDeep {path target : Argument} {others : List Argument} {name : String} {serial : Nat}
      {router : Router} (htarget : target.value = some name)
      (hlocal : routing.local? name = some (serial, router))
      (hdepth : routing.maxDepth ≤ router.depth) :
      InertMount routing callee (path :: target :: others)

/-- An event that is passed over in a state of an audit. -/
inductive Audit.Inert (audit : Audit) : Event → Prop where
  | imported (importedName localName source : String) :
      Inert audit (.routerImported importedName localName source)
  | noFactory {identifier framework : String} {callee : Callee}
      (hcallee : callee.name ≠ "Router" ∧ callee.name ≠ "router") :
      Inert audit (.routerCreated identifier callee framework)
  | notMounted {callee : Callee} {arguments : List Argument}
      (hmount : audit.table.InertMount callee arguments) :
      Inert audit (.mountAttempted callee arguments)
  | notExported {identifier : String} (hlocal : audit.table.local? identifier = none) :
      Inert audit (.routerExported identifier)
  | blankPath {registration : Registration} (hblank : Text.allBlank registration.path = true) :
      Inert audit (.routeRegistered registration)

/-- Events of a file without some that are inert when they are taken with all the others. -/
inductive Audit.LeavesOut (file : String) : Audit → List Event → List Event → Prop where
  | nothing {audit : Audit} : LeavesOut file audit [] []
  | keep {audit : Audit} {event : Event} {events kept : List Event}
      (hrest : LeavesOut file (audit.take file event).state events kept) :
      LeavesOut file audit (event :: events) (event :: kept)
  | drop {audit : Audit} {event : Event} {events kept : List Event} (hinert : audit.Inert event)
      (hrest : LeavesOut file (audit.take file event).state events kept) :
      LeavesOut file audit (event :: events) kept

/-! ## Other imports -/

section OtherImports

variable (imports : Named (List RouterImport))

/-- The routing with other imports noted. -/
def Routing.withImports (routing : Routing) : Routing :=
  { routing with imports }

/-- The table with other imports noted. -/
def RouterTable.withImports (table : RouterTable) : RouterTable :=
  { table with toRouting := table.toRouting.withImports imports }

/-- The audit with other imports noted. -/
def Audit.withImports (audit : Audit) : Audit :=
  { audit with table := audit.table.withImports imports }

namespace Routing

variable (routing : Routing)

/-- Routers are created whatever imports have been noted. -/
theorem createRouter_withImports (identifier : String) (callee : Callee) (framework : String) :
    (routing.withImports imports).createRouter identifier callee framework =
      (routing.createRouter identifier callee framework).mapState (withImports imports) := by
  unfold createRouter
  split
  · rfl
  · rfl

/-- Routers are mounted whatever imports have been noted. -/
theorem mountUnder_withImports (identifier path : String) :
    (routing.withImports imports).mountUnder identifier path =
      (routing.mountUnder identifier path).mapState (withImports imports) := by
  have hlocal : (routing.withImports imports).local? identifier = routing.local? identifier := rfl
  unfold mountUnder
  rw [hlocal]
  cases routing.local? identifier with
  | none => rfl
  | some found =>
    simp only
    split
    · rfl
    change (if routing.maxDepth < _ then _ else _) = _
    split
    · rfl
    · rfl

/-- Calls are taken for mounts whatever imports have been noted. -/
theorem mount_withImports (callee : Callee) (arguments : List Argument) :
    (routing.withImports imports).mount callee arguments =
      (routing.mount callee arguments).mapState (withImports imports) := by
  unfold mount detectMount
  simp only
  split
  · rw [mountUnder_withImports]
    rfl
  · rfl

/-- Routers are exported whatever imports have been noted. -/
theorem exportRouter_withImports (identifier : String) :
    (routing.withImports imports).exportRouter identifier =
      (routing.exportRouter identifier).mapState (withImports imports) := by
  have hlocal : (routing.withImports imports).local? identifier = routing.local? identifier := rfl
  unfold exportRouter
  rw [hlocal]
  cases routing.local? identifier with
  | none => rfl
  | some found => rfl

end Routing

namespace RouterTable

variable (table : RouterTable)

/-- Paths are joined and remembered whatever imports have been noted. -/
theorem joinMounts_withImports (mounts : List String) :
    (table.withImports imports).joinMounts mounts =
      ((table.joinMounts mounts).1, (table.joinMounts mounts).2.withImports imports) := by
  unfold joinMounts
  split
  · rfl
  · rfl

/-- Exported names are resolved whatever imports have been noted. -/
theorem resolveExported_withImports (name : String) :
    (table.withImports imports).resolveExported name =
      (table.resolveExported name).mapState (withImports imports) := by
  have hexports : (table.withImports imports).exportsOf name = table.exportsOf name := rfl
  have hrouters : (table.withImports imports).routers = table.routers := rfl
  unfold resolveExported
  rw [hexports, hrouters]
  cases table.exportsOf name with
  | nil => rfl
  | cons first more => simp only [joinMounts_withImports]; rfl

/-- Names are resolved whatever imports have been noted. -/
theorem effectivePath_withImports (name : String) :
    (table.withImports imports).effectivePath name =
      (table.effectivePath name).mapState (withImports imports) := by
  have hlocal : (table.withImports imports).local? name = table.local? name := rfl
  unfold effectivePath
  rw [hlocal]
  cases table.local? name with
  | none => exact resolveExported_withImports imports table name
  | some found => simp only [joinMounts_withImports]; rfl

end RouterTable

namespace Audit

variable (audit : Audit)

/-- Registrations are resolved whatever imports have been noted. -/
theorem effectivePath_withImports (registration : Registration) :
    (audit.withImports imports).effectivePath registration =
      (audit.effectivePath registration).mapState (withImports imports) := by
  have htable : (audit.withImports imports).table = audit.table.withImports imports := rfl
  unfold effectivePath
  cases registration.router with
  | none => rfl
  | some router =>
    simp only [htable, RouterTable.effectivePath_withImports]
    cases hfound : (audit.table.effectivePath router).value with
    | none => simp only [Traced.mapState, hfound]; rfl
    | some above => simp only [Traced.mapState, hfound]; rfl

/-- Entries are made whatever imports have been noted. -/
theorem routeOf_withImports (file : String) (registration : Registration) :
    (audit.withImports imports).routeOf file registration =
      (audit.routeOf file registration).mapState (withImports imports) := by
  unfold routeOf
  rw [effectivePath_withImports]
  rfl

/-- Routes are registered whatever imports have been noted. -/
theorem register_withImports (file : String) (registration : Registration) :
    (audit.withImports imports).register file registration =
      (audit.register file registration).mapState (withImports imports) := by
  unfold register
  split
  · rfl
  · rw [routeOf_withImports]
    generalize audit.routeOf file registration = made
    have hledger : (made.mapState (withImports imports)).state.ledger = made.state.ledger := rfl
    have hvalue : (made.mapState (withImports imports)).value = made.value := rfl
    simp only [hledger, hvalue]
    cases (made.state.ledger.register made.value).1 with
    | none => rfl
    | some first => rfl

/-- An event is taken in the same way whatever imports have been noted. -/
theorem take_withImports (file : String) (event : Event) :
    ((audit.withImports imports).take file event).value = (audit.take file event).value ∧
      ∃ noted, ((audit.withImports imports).take file event).state =
        (audit.take file event).state.withImports noted := by
  have hrouted {done other : Routing} (h : other = done.withImports imports) :
      { audit with table := { audit.table with toRouting := other } } =
        { audit with table := { audit.table with toRouting := done } }.withImports imports := by
    rw [h]
    rfl
  cases event with
  | routerCreated identifier callee framework =>
    have hdone := audit.table.createRouter_withImports imports identifier callee framework
    exact ⟨rfl, imports, hrouted (congrArg Traced.state hdone)⟩
  | mountAttempted callee arguments =>
    have hdone := audit.table.mount_withImports imports callee arguments
    exact ⟨rfl, imports, hrouted (congrArg Traced.state hdone)⟩
  | routerExported identifier =>
    have hdone := audit.table.exportRouter_withImports imports identifier
    exact ⟨rfl, imports, hrouted (congrArg Traced.state hdone)⟩
  | routerImported importedName localName source => exact ⟨rfl, _, rfl⟩
  | routeRegistered registration =>
    have hdone := audit.register_withImports imports file registration
    change ((audit.withImports imports).register file registration).value = _ ∧
      ∃ noted, ((audit.withImports imports).register file registration).state = _
    rw [hdone]
    exact ⟨rfl, imports, rfl⟩

end Audit

end OtherImports

/-! ## Events without a trace -/

namespace Routing

variable {routing : Routing} {callee : Callee} {arguments : List Argument}

/-- A call that gives a path to a name is a call of `use` with the path and the name. -/
theorem arguments_of_given? {name path : String}
    (hgiven : (RouterCall.mount callee arguments).given? name = some path) :
    (callee.receiver.isSome ∧ callee.name = "use") ∧
      ∃ first target others, arguments = first :: target :: others ∧
        first.staticText? = some path ∧ target.kind = .identifier ∧ target.value = some name := by
  match arguments with
  | [] => cases hgiven
  | [_] => cases hgiven
  | first :: target :: others =>
    simp only [RouterCall.given?] at hgiven
    split at hgiven
    · next hcall =>
      exact ⟨⟨hcall.1, hcall.2.1⟩, first, target, others, rfl, hgiven, hcall.2.2⟩
    · cases hgiven

/-- Where an inert call gives a path to a name, no router is known by the name, or the path is a
root path, or the router is mounted as deep as can be. -/
theorem InertMount.refused (h : routing.InertMount callee arguments) {name path : String}
    (hgiven : (RouterCall.mount callee arguments).given? name = some path) :
    routing.local? name = none ∨ Path.isRoot (some path) = true ∨
      ∃ serial router, routing.local? name = some (serial, router) ∧
        routing.maxDepth ≤ router.depth := by
  obtain ⟨⟨hreceiver, huse⟩, first, target, others, rfl, hfirst, hkind, hname⟩ :=
    arguments_of_given? hgiven
  cases h with
  | otherCall hother =>
    obtain hnone | hname | hlength := hother
    · rw [hnone] at hreceiver
      cases hreceiver
    · exact absurd huse hname
    · rw [List.length_cons, List.length_cons] at hlength
      omega
  | dynamicPath hpath => cases hpath.symm.trans hfirst
  | rootPath hpath =>
    right; left
    rw [hfirst] at hpath
    obtain hempty | hslash := hpath
    · rw [hempty]
      rfl
    · rw [hslash]
      rfl
  | noName htarget =>
    obtain hother | hnone := htarget
    · exact absurd hkind hother
    · cases hnone.symm.trans hname
  | unknownName htarget hlocal =>
    obtain rfl := Option.some.inj (htarget.symm.trans hname)
    exact .inl hlocal
  | tooDeep htarget hlocal hdepth =>
    obtain rfl := Option.some.inj (htarget.symm.trans hname)
    exact .inr (.inr ⟨_, _, hlocal, hdepth⟩)

/-- An inert call changes nothing. -/
theorem InertMount.state_mount (h : routing.InertMount callee arguments) :
    (routing.mount callee arguments).state = routing := by
  have htransition := routing.transition_mount callee arguments
  generalize routing.mount callee arguments = done at htransition ⊢
  obtain ⟨value, next⟩ := done
  change Transition routing (.mount callee arguments) (.success value) next at htransition
  change next = routing
  cases htransition with
  | mounted hgiven hlocal hroot hdepth =>
    obtain hnone | hisRoot | ⟨_, _, hfound, hdeep⟩ := h.refused hgiven
    · cases hlocal.symm.trans hnone
    · cases hroot.symm.trans hisRoot
    · cases hlocal.symm.trans hfound
      omega
  | passedOver => rfl
  | tooDeep => rfl
  | targetUnknown => rfl
  | notMounted => rfl

end Routing

namespace Audit

variable {audit : Audit} {file : String} {event : Event} {events kept : List Event}

@[simp] theorem withImports_withImports (imports others : Named (List RouterImport)) :
    (audit.withImports imports).withImports others = audit.withImports others :=
  rfl

/-- An inert event finds nothing, and changes nothing but the imports. -/
theorem Inert.take (h : audit.Inert event) (file : String) :
    (audit.take file event).value = none ∧
      ∃ imports, (audit.take file event).state = audit.withImports imports := by
  have hnone {done : Routing} (h : done = audit.table.toRouting) :
      ∃ imports, { audit with table := { audit.table with toRouting := done } } =
        audit.withImports imports :=
    ⟨audit.table.imports, by rw [h]; rfl⟩
  cases h with
  | imported importedName localName source => exact ⟨rfl, _, rfl⟩
  | @noFactory identifier framework callee hcallee =>
    have hfactory : callee.name ∉ Routing.factories := by
      simpa [Routing.factories] using hcallee
    have hstate : (audit.table.toRouting.createRouter identifier callee framework).state =
        audit.table.toRouting := by
      rw [Routing.createRouter, if_neg hfactory]
    exact ⟨rfl, hnone hstate⟩
  | notMounted hmount => exact ⟨rfl, hnone hmount.state_mount⟩
  | @notExported identifier hlocal =>
    have hstate : (audit.table.toRouting.exportRouter identifier).state =
        audit.table.toRouting := by
      rw [Routing.exportRouter, hlocal]
    exact ⟨rfl, hnone hstate⟩
  | @blankPath registration hblank =>
    have hdone : audit.register file registration = { value := none, state := audit, log := _ } :=
      if_pos hblank
    change (audit.register file registration).value = none ∧
      ∃ imports, (audit.register file registration).state = _
    rw [hdone]
    exact ⟨rfl, audit.table.imports, rfl⟩

/-- Without events that are inert, the same is found and left behind, up to the imports. -/
theorem LeavesOut.takeAll (h : LeavesOut file audit events kept)
    (imports : Named (List RouterImport)) :
    ((audit.withImports imports).takeAll file kept).value = (audit.takeAll file events).value ∧
      ∃ noted, ((audit.withImports imports).takeAll file kept).state =
        (audit.takeAll file events).state.withImports noted := by
  induction h generalizing imports with
  | nothing => exact ⟨rfl, imports, rfl⟩
  | @keep audit event events kept hrest ih =>
    obtain ⟨hvalue, noted, hstate⟩ := audit.take_withImports imports file event
    obtain ⟨hrestValue, hrestState⟩ := ih noted
    simp only [Audit.takeAll, hvalue, hstate, hrestValue]
    exact ⟨trivial, hrestState⟩
  | @drop audit event events kept hinert hrest ih =>
    obtain ⟨hvalue, noted, hstate⟩ := hinert.take file
    obtain ⟨hrestValue, hrestState⟩ := ih imports
    rw [hstate, withImports_withImports] at hrestValue hrestState
    simp only [Audit.takeAll, hvalue, hstate]
    exact ⟨hrestValue, hrestState⟩

/-- Taking a file without some of its inert events finds the same, and leaves the same behind: the
registrations, the routers and their names, the exports, and both memories with their counts. Only
the imports that are noted may be others. -/
theorem inert_events_traceless (audit : Audit) (path : String) {events kept : List Event}
    (h : LeavesOut path { audit with table := (audit.table.beginFile path).state } events kept) :
    (audit.processFile ⟨path, kept⟩).value = (audit.processFile ⟨path, events⟩).value ∧
      ∃ imports, (audit.processFile ⟨path, kept⟩).state =
        (audit.processFile ⟨path, events⟩).state.withImports imports :=
  h.takeAll (audit.table.beginFile path).state.imports

/-- A file with an import, a call of another function, a mount under the root, a mount that is too
deep, an export of an unknown name, and a route without a path. -/
def crowded : List Event :=
  [.routerImported "users" "users" "./users",
    .routerCreated "app" { name := "express" } "express",
    .routerCreated "r" { name := "Router" } "express",
    .mountAttempted { name := "use", receiver := some "app" }
      [{ kind := .literal, value := some "/" }, { kind := .identifier, value := some "r" }],
    .mountAttempted { name := "use", receiver := some "app" }
      [{ kind := .literal, value := some "/api" }, { kind := .identifier, value := some "r" }],
    .mountAttempted { name := "use", receiver := some "app" }
      [{ kind := .literal, value := some "/v2" }, { kind := .identifier, value := some "r" }],
    .routerExported "app",
    .routeRegistered { method := "get", path := " ", router := some "r" },
    .routeRegistered { method := "get", path := "/x", router := some "r" }]

/-- The file without them. -/
def uncrowded : List Event :=
  [.routerCreated "r" { name := "Router" } "express",
    .mountAttempted { name := "use", receiver := some "app" }
      [{ kind := .literal, value := some "/api" }, { kind := .identifier, value := some "r" }],
    .routeRegistered { method := "get", path := "/x", router := some "r" }]

/-- An audit that mounts every router once at most. -/
def shallow : Audit :=
  ofSettings { Settings.default with maxDepth := 1 }

/-- Six events of nine are inert; they leave no trace. -/
theorem inert_events_traceless_crowded :
    (shallow.processFile ⟨"a.js", uncrowded⟩).value =
        (shallow.processFile ⟨"a.js", crowded⟩).value ∧
      (∃ imports, (shallow.processFile ⟨"a.js", uncrowded⟩).state =
        (shallow.processFile ⟨"a.js", crowded⟩).state.withImports imports) ∧
      (shallow.processFile ⟨"a.js", crowded⟩).state.ledger.routes.map (·.effectivePath) =
        ["/api/x"] := by
  have hleaves : LeavesOut "a.js"
      { shallow with table := (shallow.table.beginFile "a.js").state } crowded uncrowded := by
    refine .drop (.imported _ _ _) (.drop (.noFactory (by decide)) (.keep ?_))
    refine .drop (.notMounted (.rootPath (.inr rfl))) (.keep ?_)
    refine .drop (.notMounted ?deep) (.drop (.notExported ?unknown) ?blank)
    case deep =>
      let mounted : Router := ⟨"r", "express", "a.js", ["/api"], 1, false⟩
      exact .tooDeep rfl (show _ = some (0, mounted) by decide +kernel) (by decide +kernel)
    case unknown => decide +kernel
    case blank => exact .drop (.blankPath (by decide +kernel)) (.keep .nothing)
  obtain ⟨hvalue, hstate⟩ := inert_events_traceless shallow "a.js" hleaves
  exact ⟨hvalue, hstate, by decide +kernel⟩

end Audit

end RouteAudit
