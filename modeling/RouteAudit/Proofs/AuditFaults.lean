import RouteAudit.Proofs.CallHistories

/-!
# Faults of audits

An audit as it works on options directly, with everything that may go wrong on the way. Sizes,
depths and levels are checked again wherever they are used, a level is compared with zero, parts of
keys must be no lists, items of lists are taken by their places, and the place of a route is written
wherever a route is reported. An operation stops at the first fault that it meets. Where no fault is
possible, the operation of an audit is used as it is.

The level is any value that equals one; what else is asked of it, it answers as it likes.
-/

namespace RouteAudit

/-- What an audit can stumble over. -/
inductive AuditFault where
  /-- Options that are no settings. -/
  | options (problems : List OptionProblem)
  /-- A value that is no whole number in the place of a size. -/
  | size (given : Json)
  | capacity (fault : CapacityFault)
  | depth (fault : DepthFault)
  /-- A value that is not found among the levels. -/
  | level
  /-- A value that cannot be looked for among the levels. -/
  | membership (message : String)
  /-- A value that cannot be compared with zero. -/
  | order (message : String)
  /-- A list or an object as a part of a key. -/
  | key (kind : Compound)
  /-- A value in the place of a path. -/
  | path (given : Json)
  /-- Lists of different lengths that are taken in pairs. -/
  | lengths
  /-- A place behind the end of a list. -/
  | place (index : Nat)
  /-- A cache without entries of which one has to make room. -/
  | emptyCache
  /-- A line or a column with more digits than are converted. -/
  | digits

/-! ## Levels -/

/-- A value that equals the number of a level, by what else is asked of it. -/
structure LevelValue where
  level : Level
  /-- Whether it is found among the levels, or the error when it is looked for. -/
  isMember : Except String Bool
  /-- Whether it is above zero, or the error when it is compared. -/
  isAbove : Except String Bool

namespace LevelValue

/-- The number of a level. -/
def ofLevel (level : Level) : LevelValue :=
  ⟨level, .ok true, .ok (decide (level ≠ .raw))⟩

/-- The value that options give, if it equals the number of a level. -/
def ofJson? (given : Json) : Option LevelValue :=
  (Level.ofJson? given).map fun level => {
    level
    isMember :=
      match Level.ofJson given with
      | .ok _ => .ok true
      | .error (.unknown _) => .ok false
      | .error (.compound kind) => .error kind.message
    isAbove := .ok given.isPositive }

/-- The level, where the value has to be one. -/
def tryLevel (given : LevelValue) : Except AuditFault Level :=
  match given.isMember with
  | .ok true => .ok given.level
  | .ok false => .error .level
  | .error message => .error (.membership message)

/-- Whether the value is above zero, if it can be compared. -/
def tryPositive (given : LevelValue) : Except AuditFault Bool :=
  given.isAbove.mapError .order

end LevelValue

/-- Options with any value that equals a level for theirs. -/
structure LooseOptions where
  /-- The other options. The level in them is not looked at. -/
  others : Options
  level : LevelValue
  /-- The names that are made up for runs without one, in turn. -/
  runName : Nat → String

namespace LooseOptions

/-- The options as they are given, if their level equals one. -/
def ofOptions? (options : Options) (runName : Nat → String) : Option LooseOptions :=
  (LevelValue.ofJson? (options.value .level)).map fun level => ⟨options, level, runName⟩

/-- The value of an option that is not the level. -/
def value (given : LooseOptions) (name : OptionName) : Json :=
  given.others.value name

/-- The settings that the options stand for, or all their problems. Only whether the level equals
one is asked of it here. -/
def settings (given : LooseOptions) : Except (List OptionProblem) Settings :=
  (Settings.ofOptions (given.others.set .level (.int given.level.level.number))).map
    fun settings => settings.naming given.runName

end LooseOptions

/-- The item at a place of a list. -/
def tryItem {α : Type} (items : List α) (index : Nat) : Except AuditFault α :=
  match items[index]? with
  | some item => .ok item
  | none => .error (.place index)

/-! ## Caches -/

namespace Cache

variable {κ α : Type}

/-- An empty cache of a size that options give. -/
def tryCreate (given : Json) : Except AuditFault (Cache κ α) :=
  match Whole.ofJson? given with
  | some capacity => (create capacity).mapError .capacity
  | none => .error (.size given)

variable [DecidableEq κ]

/-- Stores a value. To make room, a full cache must have an entry. -/
def trySet (cache : Cache κ α) (key : κ) (value : α) : Except AuditFault (Cache κ α) :=
  let store (kept : List (κ × α)) : Cache κ α := { cache with entries := kept ++ [(key, value)] }
  if cache.contains key then .ok (store (cache.others key))
  else if cache.capacity ≤ cache.size then
    match cache.entries with
    | [] => .error .emptyCache
    | _ :: recent => .ok (store recent)
  else .ok (store cache.entries)

/-- Looks a key up, and computes and stores its value if it is missing. -/
def tryGetOrCompute (cache : Cache κ α) (key : κ) (compute : Unit → α) :
    Except AuditFault (α × Cache κ α) :=
  match cache.get key with
  | (some value, cache) => .ok (value, cache)
  | (none, cache) => do
      let value := compute ()
      let cache ← cache.trySet key value
      return (value, cache)

end Cache

/-! ## Canonical forms and conflicts -/

/-- The first clash of aligned segments, which must be equally many. -/
def tryFirstClash? : List Segment → List Segment →
    Except AuditFault (Option (Clash × Segment × Segment))
  | [], [] => .ok none
  | left :: lefts, right :: rights =>
      match Clash.of? left right with
      | some kind => .ok (some (kind, left, right))
      | none => tryFirstClash? lefts rights
  | _, _ => .error .lengths

namespace Normalizer

/-- The canonical form of a path, with the level and the wish about constraints as options give
them. Both are parts of the key under which a form is remembered. -/
def tryNormalize (normalizer : Normalizer) (path : String) (given : LevelValue)
    (keepConstraints : Json) : Except AuditFault (String × Normalizer) := do
  let level ← given.tryLevel
  if path = "" then return ("/", normalizer)
  else match level, keepConstraints.compound? with
    | .raw, _ => return (rawForm path, normalizer)
    | _, some kind => throw (.key kind)
    | _, none =>
        let (form, cache) ← normalizer.cache.tryGetOrCompute
          ⟨path, level, keepConstraints.truthy⟩ fun _ => segmentForm path
        return (form, ⟨cache⟩)

/-- How two paths relate at a level that options give. -/
def tryCompare (normalizer : Normalizer) (left right : String) (given : LevelValue) :
    Except AuditFault (Verdict × Normalizer) :=
  let lefts := Segment.ofPath left
  let rights := Segment.ofPath right
  if left = right then .ok (.identical, normalizer)
  else if lefts.length ≠ rights.length then .ok (.differentLengths, normalizer)
  else do
    match ← tryFirstClash? lefts rights with
    | some (kind, a, b) => return (.clash kind a b, normalizer)
    | none =>
        if ← given.tryPositive then
          let (leftForm, normalizer) ← normalizer.tryNormalize left given (.bool false)
          let (rightForm, normalizer) ← normalizer.tryNormalize right given (.bool false)
          return (if leftForm = rightForm then .renamed else .unrelated, normalizer)
        else return (.unrelated, normalizer)

end Normalizer

/-! ## Routers -/

namespace Routing

/-- What a call contributes. The path and the router are the first two of its arguments. -/
def tryMountOf? (callee : Callee) (arguments : List Argument) : Except AuditFault (Option Mount) :=
  if callee.receiver = none ∨ callee.name ≠ "use" ∨ arguments.length < 2 then .ok none
  else do
    let path ← tryItem arguments 0
    let router ← tryItem arguments 1
    return some {
      target := if router.kind = .identifier then router.value else none
      path := path.staticText? }

/-- What a call contributes, reported. -/
def tryDetectMount (routing : Routing) (callee : Callee) (arguments : List Argument) :
    Except AuditFault (Traced Routing (Option Mount)) := do
  let mount ← tryMountOf? callee arguments
  return {
    value := mount
    state := routing
    log :=
      if mount.any Mount.isDynamic then [detail "Skipping dynamic prefix (not a literal string)"]
      else [] }

/-- Mounts the router that a call names under the path that it gives, where both are known. -/
def tryMount (routing : Routing) (callee : Callee) (arguments : List Argument) :
    Except AuditFault (Traced Routing Bool) := do
  let detected ← routing.tryDetectMount callee arguments
  match detected.value with
  | some ⟨some target, some path⟩ =>
      let mounted := routing.mountUnder target path
      return { mounted with log := detected.log ++ mounted.log }
  | _ => return { value := false, state := routing, log := detected.log }

end Routing

namespace RouterTable

/-- A table without routers, with the depth and the size of its memory as options give them. -/
def tryCreate (maxDepth joinCacheSize : Json) : Except AuditFault RouterTable := do
  let joins ← Cache.tryCreate joinCacheSize
  (create maxDepth joins).mapError .depth

/-- Mounts the router that a call names under the path that it gives, where both are known. -/
def tryMount (table : RouterTable) (callee : Callee) (arguments : List Argument) :
    Except AuditFault (Traced RouterTable Bool) := do
  let done ← table.toRouting.tryMount callee arguments
  return table.carry done

/-- The path that several mounts add up to; no mounts add up to none. -/
def tryJoinMounts (table : RouterTable) (mounts : List String) :
    Except AuditFault (Option String × RouterTable) :=
  if mounts.isEmpty then .ok (none, table)
  else do
    let (path, joins) ← table.joins.tryGetOrCompute mounts fun _ => Path.join mounts
    return (some path, { table with joins })

/-- The path of the router that was exported first under a name. -/
def tryResolveExported (table : RouterTable) (name : String) :
    Except AuditFault (Traced RouterTable (Option String)) :=
  let found := table.exportsOf name
  if found.isEmpty then .ok { value := none, state := table }
  else do
    let first ← tryItem found 0
    let quoted := Text.quoted name
    let files := ", ".intercalate (found.map (·.file))
    let warnings :=
      if 1 < found.length then
        [Routing.report .warning
          (s!"Multiple exports found for {quoted} ({files}). " ++
            "Cross-file resolution uncertain (using first match).")]
      else []
    let (path, table) ← table.tryJoinMounts
      (((table.routers[first.router]?).map (·.mounts)).getD [])
    let shown := path.getD "None"
    return {
      value := path
      state := table
      log := warnings ++
        [Routing.detail s!"Resolved imported router {quoted} with prefix: {shown}"] }

/-- The path that routes on a router appear below, if it has been mounted. -/
def tryEffectivePath (table : RouterTable) (name : String) :
    Except AuditFault (Traced RouterTable (Option String)) :=
  match table.local? name with
  | some (_, router) => do
      let (path, table) ← table.tryJoinMounts router.mounts
      return { value := path, state := table }
  | none => table.tryResolveExported name

end RouterTable

/-! ## Audits -/

/-- A path below the path that options put in front of every route, if they put one there. -/
def LooseOptions.tryUnderGlobal (given : LooseOptions) (path : String) :
    Except AuditFault String :=
  match given.value .globalPrefix with
  | .string above => .ok (if above = "" then path else Path.join [above, path])
  | other => if other.truthy then .error (.path other) else .ok path

/-- The place of a route, if its line and its column can be written. -/
def Route.tryLocation (route : Route) : Except AuditFault String :=
  if route.line.isLong || route.column.isLong then .error .digits else .ok route.location

namespace Audit

/-- An audit at its beginning, as options make it. -/
def tryCreate (given : LooseOptions) : Except AuditFault Audit := do
  let settings ← given.settings.mapError .options
  let forms ← Cache.tryCreate (given.value .formCacheSize)
  let table ← RouterTable.tryCreate (given.value .maxDepth) (given.value .joinCacheSize)
  return { settings, normalizer := ⟨forms⟩, table }

/-- The path at which a route is reached. -/
def tryEffectivePath (audit : Audit) (given : LooseOptions) (registration : Registration) :
    Except AuditFault (Traced Audit String) :=
  match registration.router with
  | none => do
      let reached ← given.tryUnderGlobal registration.path
      return { value := reached, state := audit }
  | some router => do
      let found ← audit.table.tryEffectivePath router
      let audit := { audit with table := found.state }
      match found.value with
      | none =>
          let reached ← given.tryUnderGlobal registration.path
          return { value := reached, state := audit, log := found.log }
      | some above =>
          let path := Path.join [above, registration.path]
          let reached ← given.tryUnderGlobal path
          return {
            value := reached
            state := audit
            log := found.log ++ [detail s!"Effective path: {registration.path} -> {path}"] }

/-- The entry for the ledger that a registration makes. -/
def tryRouteOf (audit : Audit) (given : LooseOptions) (file : String)
    (registration : Registration) : Except AuditFault (Traced Audit Route) := do
  let method := Text.upper registration.method
  let resolved ← audit.tryEffectivePath given registration
  let audit := resolved.state
  let (path, normalizer) ← audit.normalizer.tryNormalize resolved.value given.level
    (given.value .keepConstraints)
  let route : Route := {
    method, path, file
    line := registration.line
    column := registration.column
    effectivePath := resolved.value }
  let location ← route.tryLocation
  return {
    value := route
    state := { audit with normalizer }
    log := resolved.log ++
      [detail (s!"Registering route: {method} {route.effectivePath} " ++
        s!"(normalized: {path}) at {location}")] }

/-- What is found when a route collides with an earlier one. -/
def tryCollide (audit : Audit) (given : LooseOptions) (route first : Route) :
    Except AuditFault (Traced Audit (Option Finding)) := do
  let (compared, normalizer) ←
    audit.normalizer.tryCompare route.effectivePath first.path given.level
  let verdict := if compared.isConflict then compared else .sameForm
  let location ← route.tryLocation
  let firstLocation ← first.tryLocation
  return {
    value := Finding.of? audit.settings route first verdict
    state := { audit with normalizer }
    log := [detail (s!"Collision: {route.method} {route.effectivePath} at {location}, " ++
      s!"first defined at {firstLocation} ({verdict.kind.label})")] }

/-- Enters a route of a file. -/
def tryRegister (audit : Audit) (given : LooseOptions) (file : String)
    (registration : Registration) : Except AuditFault (Traced Audit (Option Finding)) :=
  if Text.allBlank registration.path then
    .ok {
      value := none
      state := audit
      log := [detail s!"Skipped route: {Text.upper registration.method} - empty path"] }
  else do
    let made ← audit.tryRouteOf given file registration
    let (existing, ledger) := made.state.ledger.register made.value
    let audit := { made.state with ledger }
    match existing with
    | none => return { value := none, state := audit, log := made.log }
    | some first =>
        let collision ← audit.tryCollide given made.value first
        return { collision with log := made.log ++ collision.log }

/-- Takes one event of a file. Mounting a router and entering a route may meet a fault. -/
def tryTake (audit : Audit) (given : LooseOptions) (file : String) (event : Event) :
    Except AuditFault (Traced Audit (Option Finding)) :=
  match event with
  | .mountAttempted callee arguments => do
      let done ← audit.table.tryMount callee arguments
      return { value := none, state := { audit with table := done.state }, log := done.log }
  | .routeRegistered registration => audit.tryRegister given file registration
  | other => .ok (audit.take file other)

/-- Takes the events of a file one after another. -/
def tryTakeAll (audit : Audit) (given : LooseOptions) (file : String) :
    List Event → Except AuditFault (Traced Audit (List Finding))
  | [] => .ok { value := [], state := audit }
  | event :: rest => do
      let one ← audit.tryTake given file event
      let others ← one.state.tryTakeAll given file rest
      return {
        value := one.value.toList ++ others.value
        state := others.state
        log := one.log ++ others.log }

/-- Takes a file. -/
def tryProcessFile (audit : Audit) (given : LooseOptions) (file : SourceFile) :
    Except AuditFault (Traced Audit (List Finding)) := do
  let begun := audit.table.beginFile file.path
  let taken ← tryTakeAll { audit with table := begun.state } given file.path file.events
  return { taken with log := begun.log ++ detail ("Processing file: " ++ file.path) :: taken.log }

/-- Takes files, `done` others having been taken in the run. -/
def tryProcessFiles (audit : Audit) (given : LooseOptions) (stop : Nat → Bool) (done : Nat) :
    List SourceFile → Except AuditFault (Traced Audit RunProgress)
  | [] => .ok { value := {}, state := audit }
  | file :: rest =>
      if stop done then
        .ok {
          value := { cancelled := true }
          state := audit
          log := [⟨.info, .analysis, s!"Analysis cancelled after {done} file(s)"⟩] }
      else do
        let one ← audit.tryProcessFile given file
        let others ← one.state.tryProcessFiles given stop (done + 1) rest
        return {
          value := {
            findings := one.value ++ others.value.findings
            filesProcessed := others.value.filesProcessed + 1
            cancelled := others.value.cancelled }
          state := others.state
          log := one.log ++ others.log }

/-- Runs over files. -/
def tryRun (audit : Audit) (given : LooseOptions) (files : List SourceFile) (runId : Option String)
    (stop : Nat → Bool) : Except AuditFault (Traced Audit AuditResult) := do
  let begun := audit.beginRun runId
  let processed ← begun.state.tryProcessFiles given stop 0 files
  return {
    value := {
      findings := processed.value.findings
      filesProcessed := processed.value.filesProcessed
      routesRegistered := processed.state.ledger.size
      cancelled := processed.value.cancelled
      formStats := processed.state.normalizer.cache.stats
      joinStats := processed.state.table.joins.stats }
    state := processed.state
    log := begun.log ++ processed.log }

/-- Asks an audit once. -/
def tryPerform (audit : Audit) (given : LooseOptions) : Call → Except AuditFault (Answer × Audit)
  | .run files runId stop => do
      let done ← audit.tryRun given files runId stop
      return (.result done.value, done.state)
  | .processFile file => do
      let done ← audit.tryProcessFile given file
      return (.findings done.value, done.state)
  | .normalize path level keepConstraints => do
      let (form, normalizer) ← audit.normalizer.tryNormalize path (.ofLevel level)
        (.bool keepConstraints)
      return (.form form, { audit with normalizer })
  | .effectivePath name => do
      let resolved ← audit.table.tryEffectivePath name
      return (.path resolved.value, { audit with table := resolved.state })
  | other => .ok (audit.perform other)

/-- Asks an audit again and again. -/
def tryPerformAll (audit : Audit) (given : LooseOptions) :
    List Call → Except AuditFault (List Answer × Audit)
  | [] => .ok ([], audit)
  | call :: rest => do
      let (answer, audit) ← audit.tryPerform given call
      let (answers, audit) ← audit.tryPerformAll given rest
      return (answer :: answers, audit)

end Audit

end RouteAudit
