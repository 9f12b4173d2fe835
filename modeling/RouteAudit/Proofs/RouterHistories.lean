import Mathlib.Data.List.DropRight
import RouteAudit.Proofs.CacheSoundness

/-!
# Histories of tables of routers

What a table of routers is asked over time, and what it answers. `Routing.Transition` says once
what a call can do to the routing and how it is then answered; whatever holds in every state that
calls lead to is proved from it, transition by transition.
-/

namespace RouteAudit

/-- Something that a table of routers is asked for. -/
inductive RouterCall where
  | reset
  | beginFile (path : String)
  | createRouter (identifier : String) (callee : Callee) (framework : String)
  | detectMount (callee : Callee) (arguments : List Argument)
  | mount (callee : Callee) (arguments : List Argument)
  | mountUnder (identifier path : String)
  | exportRouter (identifier : String)
  | importRouter (importedName localName source : String)
  | effectivePath (name : String)
  deriving DecidableEq, Repr

/-- What a table of routers answers to a call. -/
inductive RouterAnswer where
  | done
  | success (succeeded : Bool)
  | detected (mount : Option Mount)
  | path (resolved : Option String)
  deriving DecidableEq, Repr

/-- A call together with the answer to it. -/
structure RouterExchange where
  call : RouterCall
  answer : RouterAnswer
  deriving DecidableEq, Repr

namespace RouterCall

/-- Whether a call ends the file that was current: another file begins, or another run. -/
def endsFile : RouterCall → Bool
  | reset => true
  | beginFile _ => true
  | _ => false

/-- Whether a call creates a router under a name. -/
def creates (name : String) : RouterCall → Bool
  | createRouter identifier callee _ =>
      identifier == name && (callee.name == "Router" || callee.name == "router")
  | _ => false

/-- The path that a call gives to the router of a name, to be mounted under it. It may do so
directly, or as a call of `use` on a receiver, with a path whose text is known and the name behind
it. -/
def given? (name : String) : RouterCall → Option String
  | mountUnder identifier path => if identifier = name then some path else none
  | mount callee (path :: router :: _) =>
      if callee.receiver.isSome ∧ callee.name = "use" ∧ router.kind = .identifier ∧
        router.value = some name
      then path.staticText? else none
  | _ => none

/-- The name that a call is about, if it is about one. -/
def subject? : RouterCall → Option String
  | createRouter identifier _ _ => some identifier
  | mount _ (_ :: router :: _) => if router.kind = .identifier then router.value else none
  | mountUnder identifier _ => some identifier
  | exportRouter identifier => some identifier
  | importRouter _ localName _ => some localName
  | effectivePath name => some name
  | _ => none

/-- A router is created under the name that a call asks for, if the callee creates routers. -/
theorem creates_createRouter {identifier framework name : String} {callee : Callee} :
    (createRouter identifier callee framework).creates name = true ↔
      identifier = name ∧ callee.name ∈ Routing.factories := by
  simp [creates, Routing.factories]

/-- A call that gives a path to a name is about this name. -/
theorem subject?_of_given? {call : RouterCall} {name path : String}
    (hgiven : call.given? name = some path) : call.subject? = some name := by
  unfold given? at hgiven
  split at hgiven
  · split at hgiven
    · next hname => exact congrArg some hname
    · cases hgiven
  · split at hgiven
    · next huse => exact (if_pos huse.2.2.1).trans huse.2.2.2
    · cases hgiven
  · cases hgiven

/-- A call gives a path to one name only, and only one path. -/
theorem given?_unique {call : RouterCall} {name other path : String}
    (hgiven : call.given? name = some path) :
    call.given? other = if name = other then some path else none := by
  by_cases hname : name = other
  · subst hname
    rw [if_pos rfl, hgiven]
  · rw [if_neg hname]
    cases hother : call.given? other with
    | none => rfl
    | some given =>
      have hsame := (subject?_of_given? hgiven).symm.trans (subject?_of_given? hother)
      exact absurd (Option.some.inj hsame) hname

/-- A call that gives a path neither ends a file nor creates a router. -/
theorem endsFile_creates_of_given? {call : RouterCall} {name path : String}
    (hgiven : call.given? name = some path) (other : String) :
    call.endsFile = false ∧ call.creates other = false := by
  unfold given? at hgiven
  split at hgiven
  · exact ⟨rfl, rfl⟩
  · exact ⟨rfl, rfl⟩
  · cases hgiven

end RouterCall

/-- A router that is mounted in one file, also after its export, and another one that is exported
under its name in the next file. -/
def RouterCall.exportedTwice : List RouterCall :=
  [.beginFile "a.js", .createRouter "api" ⟨"Router", some "express"⟩ "express",
    .mountUnder "api" "/v1", .exportRouter "api", .mountUnder "api" "/", .mountUnder "api" "/users",
    .beginFile "b.js", .createRouter "api" ⟨"Router", some "express"⟩ "express",
    .mountUnder "api" "/v2", .exportRouter "api"]

namespace RouterTable

/-- A table that has not been asked for anything. -/
def start (maxDepth : Nat) (joins : Cache (List String) String) : RouterTable :=
  { maxDepth, joins }

/-- A memory of one join that holds none yet. -/
def noJoins : Cache (List String) String :=
  { capacity := 1, capacity_pos := Nat.one_pos }

/-- A memory without joins is sound. -/
theorem sound_noJoins : noJoins.Sound Path.join :=
  fun _ hentry => absurd hentry List.not_mem_nil

/-- Asks a table once. -/
def perform (table : RouterTable) : RouterCall → RouterAnswer × RouterTable
  | .reset => (.done, table.reset.state)
  | .beginFile path => (.done, (table.beginFile path).state)
  | .createRouter identifier callee framework =>
      let done := table.createRouter identifier callee framework
      (.success done.value, done.state)
  | .detectMount callee arguments =>
      let done := table.detectMount callee arguments
      (.detected done.value, done.state)
  | .mount callee arguments =>
      let done := table.mount callee arguments
      (.success done.value, done.state)
  | .mountUnder identifier path =>
      let done := table.mountUnder identifier path
      (.success done.value, done.state)
  | .exportRouter identifier =>
      let done := table.exportRouter identifier
      (.success done.value, done.state)
  | .importRouter importedName localName source =>
      (.done, (table.importRouter importedName localName source).state)
  | .effectivePath name =>
      let done := table.effectivePath name
      (.path done.value, done.state)

/-- Asks a table again and again. -/
def performAll (table : RouterTable) : List RouterCall → List RouterExchange × RouterTable
  | [] => ([], table)
  | call :: rest =>
      let (answer, table) := table.perform call
      let (exchanges, table) := table.performAll rest
      (⟨call, answer⟩ :: exchanges, table)

/-- The exchanges that a list of calls makes with a new table. -/
def history (maxDepth : Nat) (joins : Cache (List String) String) (calls : List RouterCall) :
    List RouterExchange :=
  ((start maxDepth joins).performAll calls).1

/-- The table that a list of calls makes of a new one. -/
def after (maxDepth : Nat) (joins : Cache (List String) String) (calls : List RouterCall) :
    RouterTable :=
  ((start maxDepth joins).performAll calls).2

end RouterTable

namespace Router

/-- The router, mounted under one more path. -/
def mountedUnder (path : String) (depth : Nat) (router : Router) : Router :=
  { router with mounts := router.mounts ++ [path], depth }

/-- The router, marked as exported. -/
def marked (router : Router) : Router :=
  { router with exported := true }

end Router

namespace Routing

/-- The routing in which a new router has a name. -/
def withRouter (routing : Routing) (identifier framework : String) : Routing :=
  { routing with
    routers := routing.routers ++ [{ identifier, framework, file := routing.currentFile }]
    locals := routing.locals.put identifier routing.routers.length }

/-- The routing in which a router is exported once more. -/
def withExport (routing : Routing) (identifier : String) (serial : Nat) : Routing :=
  { routing.change serial Router.marked with
    exports := routing.exports.put identifier
      (routing.exportsOf identifier ++ [⟨identifier, routing.currentFile, serial⟩]) }

/-- What a call can do to the routing, and how it is then answered. -/
inductive Transition (routing : Routing) : RouterCall → RouterAnswer → Routing → Prop
  | reset : Transition routing .reset .done { maxDepth := routing.maxDepth }
  | fileBegun (path : String) :
      Transition routing (.beginFile path) .done { routing with locals := [], currentFile := path }
  | created {identifier framework : String} {callee : Callee} (hfactory : callee.name ∈ factories) :
      Transition routing (.createRouter identifier callee framework) (.success true)
        (routing.withRouter identifier framework)
  | notCreated {identifier framework : String} {callee : Callee}
      (hfactory : callee.name ∉ factories) :
      Transition routing (.createRouter identifier callee framework) (.success false) routing
  | mounted {call : RouterCall} {name path : String} {serial : Nat} {router : Router}
      (hgiven : call.given? name = some path) (hlocal : routing.local? name = some (serial, router))
      (hroot : Path.isRoot (some path) = false) (hdepth : router.depth < routing.maxDepth) :
      Transition routing call (.success true)
        (routing.change serial (Router.mountedUnder path (router.depth + 1)))
  | passedOver {call : RouterCall} {name path : String} {serial : Nat} {router : Router}
      (hgiven : call.given? name = some path) (hlocal : routing.local? name = some (serial, router))
      (hroot : Path.isRoot (some path) = true) :
      Transition routing call (.success true) routing
  | tooDeep {call : RouterCall} {name path : String} {serial : Nat} {router : Router}
      (hgiven : call.given? name = some path) (hlocal : routing.local? name = some (serial, router))
      (hroot : Path.isRoot (some path) = false) (hdepth : routing.maxDepth ≤ router.depth) :
      Transition routing call (.success false) routing
  | targetUnknown {call : RouterCall} {name path : String}
      (hgiven : call.given? name = some path) (hlocal : routing.local? name = none) :
      Transition routing call (.success false) routing
  | notMounted {callee : Callee} {arguments : List Argument}
      (hgiven : ∀ name, (RouterCall.mount callee arguments).given? name = none) :
      Transition routing (.mount callee arguments) (.success false) routing
  | exported {name : String} {serial : Nat} {router : Router}
      (hlocal : routing.local? name = some (serial, router)) :
      Transition routing (.exportRouter name) (.success true) (routing.withExport name serial)
  | notExported {name : String} (hlocal : routing.local? name = none) :
      Transition routing (.exportRouter name) (.success false) routing
  | imported (importedName localName source : String) :
      Transition routing (.importRouter importedName localName source) .done
        (routing.importRouter importedName localName source).state
  | detected (callee : Callee) (arguments : List Argument) :
      Transition routing (.detectMount callee arguments) (.detected (mountOf? callee arguments))
        routing
  | resolved (name : String) (path : Option String) :
      Transition routing (.effectivePath name) (.path path) routing

/-- Exchanges that lead from one routing to another, the last one at the end. -/
inductive Reaches (start : Routing) : List RouterExchange → Routing → Prop
  | refl : Reaches start [] start
  | step {exchanges : List RouterExchange} {routing next : Routing} {call : RouterCall}
      {answer : RouterAnswer} (before : Reaches start exchanges routing)
      (last : Transition routing call answer next) :
      Reaches start (exchanges ++ [⟨call, answer⟩]) next

/-! ## Calls are transitions -/

/-- A call of a function gives a path to a router if it is read as a mount of this router under
this path. -/
theorem given?_mount_eq_some_iff (callee : Callee) (arguments : List Argument)
    (name path : String) :
    (RouterCall.mount callee arguments).given? name = some path ↔
      mountOf? callee arguments = some ⟨some name, some path⟩ := by
  match arguments with
  | [] => simp [RouterCall.given?, mountOf?]
  | [only] => simp [RouterCall.given?, mountOf?]
  | first :: second :: more =>
    unfold RouterCall.given? mountOf?
    by_cases huse : callee.receiver.isSome ∧ callee.name = "use"
    · by_cases hkind : second.kind = .identifier
      · simp [huse, hkind]
      · simp [huse, hkind]
    · have hnot : ¬(callee.receiver.isSome ∧ callee.name = "use" ∧ second.kind = .identifier ∧
          second.value = some name) := fun h => huse ⟨h.1, h.2.1⟩
      simp only [if_neg huse, if_neg hnot, reduceCtorEq]

/-- Mounting the router of a name under a path is a transition of every call that gives the path to
the name. -/
theorem transition_mountUnder (routing : Routing) {call : RouterCall} {name path : String}
    (hgiven : call.given? name = some path) :
    Transition routing call (.success (routing.mountUnder name path).value)
      (routing.mountUnder name path).state := by
  unfold mountUnder
  cases hlocal : routing.local? name with
  | none => exact .targetUnknown hgiven hlocal
  | some entry =>
    obtain ⟨serial, router⟩ := entry
    simp only
    by_cases hroot : Path.isRoot (some path) = true
    · rw [if_pos hroot]
      exact .passedOver hgiven hlocal hroot
    · rw [if_neg hroot]
      have hroot : Path.isRoot (some path) = false := by simpa using hroot
      by_cases hdepth : routing.maxDepth < router.depth + 1
      · rw [if_pos hdepth]
        exact .tooDeep hgiven hlocal hroot (by omega)
      · rw [if_neg hdepth]
        exact .mounted hgiven hlocal hroot (by omega)

/-- Taking a call of a function for a mount is a transition. -/
theorem transition_mount (routing : Routing) (callee : Callee) (arguments : List Argument) :
    Transition routing (.mount callee arguments)
      (.success (routing.mount callee arguments).value)
      (routing.mount callee arguments).state := by
  unfold mount detectMount
  simp only
  split
  · next target path hmount =>
    exact routing.transition_mountUnder ((given?_mount_eq_some_iff _ _ _ _).mpr hmount)
  · next hother =>
    refine .notMounted fun name => ?_
    cases hgiven : (RouterCall.mount callee arguments).given? name with
    | none => rfl
    | some path => exact absurd ((given?_mount_eq_some_iff _ _ _ _).mp hgiven) (hother name path)

/-- Every call of a table is a transition of its routing. -/
theorem transition_perform (table : RouterTable) (call : RouterCall) :
    Transition table.toRouting call (table.perform call).1 (table.perform call).2.toRouting := by
  cases call with
  | reset => exact .reset
  | beginFile path => exact .fileBegun path
  | createRouter identifier callee framework =>
    change Transition _ _ (.success (table.toRouting.createRouter identifier callee framework).value)
      (table.toRouting.createRouter identifier callee framework).state
    unfold createRouter
    by_cases hfactory : callee.name ∈ factories
    · rw [if_pos hfactory]
      exact .created hfactory
    · rw [if_neg hfactory]
      exact .notCreated hfactory
  | detectMount callee arguments => exact .detected callee arguments
  | mount callee arguments => exact table.toRouting.transition_mount callee arguments
  | mountUnder identifier path =>
    have hgiven : (RouterCall.mountUnder identifier path).given? identifier = some path :=
      if_pos rfl
    exact table.toRouting.transition_mountUnder hgiven
  | exportRouter identifier =>
    change Transition _ _ (.success (table.toRouting.exportRouter identifier).value)
      (table.toRouting.exportRouter identifier).state
    unfold exportRouter
    cases hlocal : table.toRouting.local? identifier with
    | none => exact .notExported hlocal
    | some entry => exact .exported hlocal
  | importRouter importedName localName source => exact .imported importedName localName source
  | effectivePath name =>
    have hkept := RouterTable.toRouting_effectivePath table name
    change Transition _ _ _ (table.effectivePath name).state.toRouting
    rw [hkept]
    exact .resolved name _

/-! ## Histories are reached -/

variable {start middle last : Routing} {exchanges more : List RouterExchange}

/-- Exchanges behind exchanges lead on. -/
theorem Reaches.trans (first : Reaches start exchanges middle) (second : Reaches middle more last) :
    Reaches start (exchanges ++ more) last := by
  induction second with
  | refl => simpa using first
  | step _ hlast ih =>
    rw [← List.append_assoc]
    exact ih.step hlast

/-- The last exchange is a transition, and the others lead to its beginning. -/
theorem Reaches.exists_last {exchange : RouterExchange}
    (h : Reaches start (exchanges ++ [exchange]) last) :
    ∃ middle, Reaches start exchanges middle ∧
      Transition middle exchange.call exchange.answer last := by
  generalize hall : exchanges ++ [exchange] = all at h
  cases h with
  | refl => simp at hall
  | step before final =>
    obtain ⟨rfl, hexchange⟩ := List.append_inj' hall rfl
    obtain rfl := List.singleton_inj.mp hexchange
    exact ⟨_, before, final⟩

/-- Exchanges lead to their end by way of every place among them. -/
theorem Reaches.split (h : Reaches start (exchanges ++ more) last) :
    ∃ middle, Reaches start exchanges middle ∧ Reaches middle more last := by
  induction more using List.reverseRecOn generalizing last with
  | nil => exact ⟨last, by simpa using h, .refl⟩
  | append_singleton front final ih =>
    rw [← List.append_assoc] at h
    obtain ⟨before, hbefore, hlast⟩ := h.exists_last
    obtain ⟨middle, hfirst, hsecond⟩ := ih hbefore
    exact ⟨middle, hfirst, hsecond.step hlast⟩

/-- Exchanges lead to their end by way of each of them. -/
theorem Reaches.split_at {exchange : RouterExchange}
    (h : Reaches start (exchanges ++ exchange :: more) last) :
    ∃ middle next, Reaches start exchanges middle ∧
      Transition middle exchange.call exchange.answer next ∧ Reaches next more last := by
  rw [List.append_cons] at h
  obtain ⟨next, hfirst, hsecond⟩ := h.split
  obtain ⟨middle, hbefore, hstep⟩ := hfirst.exists_last
  exact ⟨middle, next, hbefore, hstep, hsecond⟩

/-- A history of calls leads from the routing before it to the routing after it. -/
theorem reaches_performAll (table : RouterTable) (calls : List RouterCall) :
    Reaches table.toRouting (table.performAll calls).1 (table.performAll calls).2.toRouting := by
  induction calls generalizing table with
  | nil => exact .refl
  | cons call rest ih =>
    have hfirst := Reaches.refl.step (transition_perform table call)
    exact hfirst.trans (ih (table.perform call).2)

end Routing

namespace RouterTable

/-- The calls of a history are those that were asked. -/
theorem map_call_performAll (table : RouterTable) (calls : List RouterCall) :
    (table.performAll calls).1.map RouterExchange.call = calls := by
  induction calls generalizing table with
  | nil => rfl
  | cons call rest ih => exact congrArg (call :: ·) (ih (table.perform call).2)

/-- Calls that begin no run make exchanges that begin no run. -/
theorem noReset_performAll (table : RouterTable) {calls : List RouterCall}
    (hcalls : RouterCall.reset ∉ calls) :
    ∀ exchange ∈ (table.performAll calls).1, exchange.call ≠ .reset := by
  intro exchange hexchange hreset
  have hcall := List.mem_map_of_mem (f := RouterExchange.call) hexchange
  rw [map_call_performAll, hreset] at hcall
  exact hcalls hcall

/-- Asking twice is asking for everything at once. -/
theorem performAll_append (table : RouterTable) (calls more : List RouterCall) :
    table.performAll (calls ++ more) =
      ((table.performAll calls).1 ++ ((table.performAll calls).2.performAll more).1,
        ((table.performAll calls).2.performAll more).2) := by
  induction calls generalizing table with
  | nil => rfl
  | cons call rest ih =>
    simp only [List.cons_append, performAll, ih (table.perform call).2]

/-- A table keeps sound whatever it is asked for. -/
theorem Sound.perform {table : RouterTable} (h : table.Sound) (call : RouterCall) :
    (table.perform call).2.Sound := by
  cases call with
  | reset => exact Cache.sound_clear table.joins
  | effectivePath name => exact h.effectivePath name
  | _ => exact h

/-- A table keeps sound over every history. -/
theorem Sound.performAll {table : RouterTable} (h : table.Sound) (calls : List RouterCall) :
    (table.performAll calls).2.Sound := by
  induction calls generalizing table with
  | nil => exact h
  | cons call rest ih => exact ih (h.perform call)

/-! ## From the beginning -/

variable {maxDepth : Nat} {joins : Cache (List String) String}

/-- The calls of a history are those that were asked. -/
theorem map_call_history (calls : List RouterCall) :
    (history maxDepth joins calls).map RouterExchange.call = calls :=
  map_call_performAll _ calls

/-- More calls make more exchanges, with the table that the first ones leave. -/
theorem history_append (calls more : List RouterCall) :
    history maxDepth joins (calls ++ more) =
      history maxDepth joins calls ++ ((after maxDepth joins calls).performAll more).1 := by
  unfold history after
  rw [performAll_append]

/-- More calls go on with the table that the first ones leave. -/
theorem after_append (calls more : List RouterCall) :
    after maxDepth joins (calls ++ more) =
      ((after maxDepth joins calls).performAll more).2 := by
  unfold after
  rw [performAll_append]

/-- The exchanges of a history lead to the routing that it leaves. -/
theorem reaches_after (calls : List RouterCall) :
    Routing.Reaches { maxDepth } (history maxDepth joins calls)
      (after maxDepth joins calls).toRouting :=
  Routing.reaches_performAll (start maxDepth joins) calls

/-- With a sound memory at the beginning, tables are sound. -/
theorem sound_after (hsound : joins.Sound Path.join) (calls : List RouterCall) :
    (after maxDepth joins calls).Sound := by
  have hstart : (start maxDepth joins).Sound := hsound
  exact hstart.performAll calls

end RouterTable

end RouteAudit
