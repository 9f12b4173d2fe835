import RouteAudit.Event
import RouteAudit.Named
import RouteAudit.Path
import RouteAudit.Text.Quoted
import RouteAudit.Trace

/-!
# Routers and where they are mounted

A router is created in a file under a name and mounted under paths; a route registered on it
appears below all of them. A router that is exported can be resolved by its name in later files.

Routers keep the serial numbers of their creation, so that an export goes on to mean the same
router, with the paths it is given later, when its name is bound to another one.
-/

namespace RouteAudit

/-- A router. -/
structure Router where
  identifier : String
  framework : String
  /-- The file that creates it. -/
  file : String
  /-- The paths it is mounted under, the outermost first. -/
  mounts : List String := []
  /-- The number of its mounts. -/
  depth : Nat := 0
  exported : Bool := false
  deriving DecidableEq, Repr

/-- One export of a router. -/
structure RouterExport where
  identifier : String
  file : String
  /-- The serial number of the router. -/
  router : Nat
  deriving DecidableEq, Repr

/-- One import of a router's name. -/
structure RouterImport where
  importedName : String
  localName : String
  source : String
  file : String
  deriving DecidableEq, Repr

/-- What a call contributes that mounts a router: the router's name and the path, where they are
known. -/
structure Mount where
  target : Option String
  path : Option String
  deriving DecidableEq, Repr

/-- Whether the path of a mount is known only when the program runs. -/
def Mount.isDynamic (mount : Mount) : Bool :=
  mount.path.isNone

/-- What is known about the routers of a run. -/
structure Routing where
  /-- The most mounts of one router. -/
  maxDepth : Nat
  /-- All routers created in the run; the place of a router is its serial number. -/
  routers : List Router := []
  /-- The routers that have a name in the current file. -/
  locals : Named Nat := []
  exports : Named (List RouterExport) := []
  imports : Named (List RouterImport) := []
  currentFile : String := ""
  deriving DecidableEq, Repr

namespace Routing

/-- A report of the routing part. -/
def report (level : LogLevel) (message : String) : LogEntry :=
  ⟨level, .routing, message⟩

/-- A detail of the routing part. -/
def detail (message : String) : LogEntry :=
  report .debug message

/-- The router that a name is bound to in the current file, with its serial number. -/
def local? (routing : Routing) (name : String) : Option (Nat × Router) := do
  let serial ← routing.locals.lookup name
  let router ← routing.routers[serial]?
  return (serial, router)

/-- The routers of the current file by name, in the order in which the names were first bound. -/
def bindings (routing : Routing) : Named Router :=
  routing.locals.filterMap fun (name, serial) => (routing.routers[serial]?).map (name, ·)

/-- The exports under a name, in order. -/
def exportsOf (routing : Routing) (name : String) : List RouterExport :=
  (routing.exports.lookup name).getD []

/-- The imports under a local name, in order. -/
def importsOf (routing : Routing) (name : String) : List RouterImport :=
  (routing.imports.lookup name).getD []

/-- The routing with one router changed. -/
def change (routing : Routing) (serial : Nat) (f : Router → Router) : Routing :=
  { routing with routers := routing.routers.modify serial f }

/-! ## Runs and files -/

/-- Begins a file: its routers have no names yet. -/
def beginFile (routing : Routing) (path : String) : Traced Routing Unit where
  value := ()
  state := { routing with locals := [], currentFile := path }
  log := [detail ("Reset router bindings for file: " ++ path)]

/-- Begins a run: nothing is known yet. -/
def reset (routing : Routing) : Traced Routing Unit where
  value := ()
  state := { maxDepth := routing.maxDepth }
  log := [detail "Full router graph reset"]

/-! ## Creating and mounting -/

/-- The names of functions that create routers. -/
def factories : List String := ["Router", "router"]

/-- Binds a name to a new router, if the callee creates routers. -/
def createRouter (routing : Routing) (identifier : String) (callee : Callee)
    (framework : String) : Traced Routing Bool :=
  if callee.name ∈ factories then
    let router : Router := { identifier, framework, file := routing.currentFile }
    { value := true
      state := { routing with
        routers := routing.routers ++ [router]
        locals := routing.locals.put identifier routing.routers.length }
      log := [detail s!"Registered router binding: {identifier} ({framework})"] }
  else { value := false, state := routing }

/-- What a call contributes, if it is a call of `use` on a receiver with two arguments or more. -/
def mountOf? (callee : Callee) (arguments : List Argument) : Option Mount :=
  match arguments with
  | path :: router :: _ =>
      if callee.receiver.isSome ∧ callee.name = "use" then
        some {
          target := if router.kind = .identifier then router.value else none
          path := path.staticText? }
      else none
  | _ => none

/-- What a call contributes, reported. -/
def detectMount (routing : Routing) (callee : Callee) (arguments : List Argument) :
    Traced Routing (Option Mount) where
  value := mountOf? callee arguments
  state := routing
  log :=
    if (mountOf? callee arguments).any Mount.isDynamic then
      [detail "Skipping dynamic prefix (not a literal string)"]
    else []

/-- Mounts a router of the current file under a path. Root paths are accepted and change nothing;
a mount that would be too deep is refused. -/
def mountUnder (routing : Routing) (identifier path : String) : Traced Routing Bool :=
  let name := Text.quoted identifier
  match routing.local? identifier with
  | none =>
      { value := false
        state := routing
        log := [detail s!"Cannot apply prefix to unknown router {name}"] }
  | some (serial, router) =>
      let depth := router.depth + 1
      if Path.isRoot (some path) then
        { value := true
          state := routing
          log := [detail s!"Skipping empty/root prefix for router {name}"] }
      else if routing.maxDepth < depth then
        { value := false
          state := routing
          log := [report .warning
            (s!"Router nesting depth ({depth}) exceeds maximum ({routing.maxDepth}). " ++
              s!"Prefix resolution may be incomplete for {name}.")] }
      else
        { value := true
          state := routing.change serial fun router =>
            { router with mounts := router.mounts ++ [path], depth }
          log := [detail
            s!"Applied prefix {Text.quoted path} to router {name} (depth: {depth})"] }

/-- Mounts the router that a call names under the path that it gives, where both are known. -/
def mount (routing : Routing) (callee : Callee) (arguments : List Argument) :
    Traced Routing Bool :=
  let detected := routing.detectMount callee arguments
  match detected.value with
  | some ⟨some target, some path⟩ =>
      let mounted := routing.mountUnder target path
      { mounted with log := detected.log ++ mounted.log }
  | _ => { value := false, state := routing, log := detected.log }

/-! ## Exports and imports -/

/-- Exports a router of the current file. -/
def exportRouter (routing : Routing) (identifier : String) : Traced Routing Bool :=
  match routing.local? identifier with
  | none => { value := false, state := routing }
  | some (serial, _) =>
      let file := routing.currentFile
      let entry : RouterExport := { identifier, file, router := serial }
      let marked := routing.change serial fun router => { router with exported := true }
      { value := true
        state := { marked with
          exports := routing.exports.put identifier (routing.exportsOf identifier ++ [entry]) }
        log := [detail s!"Marked router {Text.quoted identifier} as exported from {file}"] }

/-- Notes the import of a router's name. Imports do not change how names are resolved. -/
def importRouter (routing : Routing) (importedName localName source : String) :
    Traced Routing Unit where
  value := ()
  state :=
    let entry : RouterImport := { importedName, localName, source, file := routing.currentFile }
    { routing with
      imports := routing.imports.put localName (routing.importsOf localName ++ [entry]) }
  log := [detail s!"Registered import: {importedName} as {localName} from {source}"]

end Routing

end RouteAudit
