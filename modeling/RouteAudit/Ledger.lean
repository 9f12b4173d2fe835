import RouteAudit.Whole

/-!
# The ledger of routes

The ledger of a run keeps the first registration under every key. A key is the method and the
normalized path; the ledger does not normalize.
-/

namespace RouteAudit

/-- A registration of a route. -/
structure Route where
  method : String
  /-- The normalized path. -/
  path : String
  file : String
  line : Whole
  column : Whole := .number 0
  /-- The path before it was normalized. -/
  effectivePath : String := ""
  deriving DecidableEq, Repr

namespace Route

/-- What a registration is entered under. -/
def key (route : Route) : String :=
  route.method ++ ":" ++ route.path

/-- Where the registration stands. -/
def location (route : Route) : String :=
  route.file ++ ":" ++ route.line.text ++ ":" ++ route.column.text

end Route

/-- The registrations of a run, in the order of their entry. -/
structure Ledger where
  routes : List Route := []
  runId : Option String := none
  deriving DecidableEq, Repr

namespace Ledger

/-- The registration under a key. -/
def find? (ledger : Ledger) (key : String) : Option Route :=
  ledger.routes.find? fun route => route.key == key

/-- Begins or continues a run: another run drops the registrations, the same one keeps them. -/
def beginRun (ledger : Ledger) (runId : String) : Ledger :=
  if ledger.runId = some runId then ledger else { routes := [], runId := some runId }

/-- Enters a registration, unless there is one under its key already, which is then given back. -/
def register (ledger : Ledger) (route : Route) : Option Route × Ledger :=
  match ledger.find? route.key with
  | some existing => (some existing, ledger)
  | none => (none, { ledger with routes := ledger.routes ++ [route] })

/-- The ledger outside of any run. -/
def clear (_ledger : Ledger) : Ledger := {}

/-- The number of registrations. -/
def size (ledger : Ledger) : Nat :=
  ledger.routes.length

end Ledger

end RouteAudit
