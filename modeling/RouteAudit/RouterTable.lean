import RouteAudit.Cache
import RouteAudit.Routing

/-!
# Tables of routers

The routing of a run together with a memory of the paths that mounts have been joined to.
-/

namespace RouteAudit

/-- The routers of a run, and joined mounts that are remembered. -/
structure RouterTable extends Routing where
  joins : Cache (List String) String

/-- A number that is no bound on the depth of mounts. -/
structure DepthFault where
  given : Json

/-- The message for a number that is no bound on the depth of mounts. -/
def DepthFault.message (fault : DepthFault) : String :=
  s!"max_depth must be between 1 and 10, got {fault.given.shown}."

namespace RouterTable

/-- The bounds on the depth of mounts that are allowed. -/
def depths : List Nat := [1, 2, 3, 4, 5, 6, 7, 8, 9, 10]

/-- A table without routers. -/
def create (maxDepth : Json) (joins : Cache (List String) String) :
    Except DepthFault RouterTable :=
  match depths.find? fun (depth : Nat) => maxDepth.isNumber depth with
  | some maxDepth => .ok { maxDepth, joins }
  | none => .error ⟨maxDepth⟩

/-- What an operation on the routing leaves, with the memory of joined mounts as it is. -/
def carry {α : Type} (table : RouterTable) (done : Traced Routing α) : Traced RouterTable α where
  value := done.value
  state := { table with toRouting := done.state }
  log := done.log

/-! ## Runs and files -/

/-- Begins a file: its routers have no names yet. -/
def beginFile (table : RouterTable) (path : String) : Traced RouterTable Unit :=
  table.carry (table.toRouting.beginFile path)

/-- Begins a run: nothing is known yet, and no joined mounts are remembered. -/
def reset (table : RouterTable) : Traced RouterTable Unit :=
  { table with joins := table.joins.clear }.carry table.toRouting.reset

/-! ## Creating, mounting, exporting and importing -/

/-- Binds a name to a new router, if the callee creates routers. -/
def createRouter (table : RouterTable) (identifier : String) (callee : Callee)
    (framework : String) : Traced RouterTable Bool :=
  table.carry (table.toRouting.createRouter identifier callee framework)

/-- What a call contributes, reported. -/
def detectMount (table : RouterTable) (callee : Callee) (arguments : List Argument) :
    Traced RouterTable (Option Mount) :=
  table.carry (table.toRouting.detectMount callee arguments)

/-- Mounts a router of the current file under a path. -/
def mountUnder (table : RouterTable) (identifier path : String) : Traced RouterTable Bool :=
  table.carry (table.toRouting.mountUnder identifier path)

/-- Mounts the router that a call names under the path that it gives, where both are known. -/
def mount (table : RouterTable) (callee : Callee) (arguments : List Argument) :
    Traced RouterTable Bool :=
  table.carry (table.toRouting.mount callee arguments)

/-- Exports a router of the current file. -/
def exportRouter (table : RouterTable) (identifier : String) : Traced RouterTable Bool :=
  table.carry (table.toRouting.exportRouter identifier)

/-- Notes the import of a router's name. -/
def importRouter (table : RouterTable) (importedName localName source : String) :
    Traced RouterTable Unit :=
  table.carry (table.toRouting.importRouter importedName localName source)

/-! ## Resolving -/

/-- The path that several mounts add up to; no mounts add up to none. -/
def joinMounts (table : RouterTable) (mounts : List String) : Option String × RouterTable :=
  if mounts.isEmpty then (none, table)
  else
    let (path, joins) := table.joins.getOrCompute mounts fun _ => Path.join mounts
    (some path, { table with joins })

/-- The path of the router that was exported first under a name. -/
def resolveExported (table : RouterTable) (name : String) :
    Traced RouterTable (Option String) :=
  let found := table.exportsOf name
  match found with
  | [] => { value := none, state := table }
  | first :: more =>
      let quoted := Text.quoted name
      let files := ", ".intercalate (found.map (·.file))
      let warnings :=
        if more.isEmpty then []
        else [Routing.report .warning
          (s!"Multiple exports found for {quoted} ({files}). " ++
            "Cross-file resolution uncertain (using first match).")]
      let mounts := ((table.routers[first.router]?).map (·.mounts)).getD []
      let (path, table) := table.joinMounts mounts
      let shown := path.getD "None"
      { value := path
        state := table
        log := warnings ++
          [Routing.detail s!"Resolved imported router {quoted} with prefix: {shown}"] }

/-- The path that routes on a router appear below, if it has been mounted. A name that is not
bound in the current file means the router that was exported first under it. -/
def effectivePath (table : RouterTable) (name : String) : Traced RouterTable (Option String) :=
  match table.local? name with
  | some (_, router) =>
      let (path, table) := table.joinMounts router.mounts
      { value := path, state := table }
  | none => table.resolveExported name

end RouterTable

end RouteAudit
