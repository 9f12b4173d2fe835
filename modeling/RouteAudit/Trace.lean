/-!
# Traces

What operations report about themselves while they work.
-/

namespace RouteAudit

/-- How important a report is. -/
inductive LogLevel where
  | debug
  | info
  | warning
  deriving DecidableEq, Repr

/-- The name of a level. -/
def LogLevel.label : LogLevel → String
  | debug => "DEBUG"
  | info => "INFO"
  | warning => "WARNING"

/-- The parts that report. -/
inductive LogSource where
  | routing
  | analysis
  deriving DecidableEq, Repr

/-- The name of a part. -/
def LogSource.label : LogSource → String
  | routing => "routeguard.routing"
  | analysis => "routeguard.analysis"

/-- A report. -/
structure LogEntry where
  level : LogLevel
  source : LogSource
  message : String
  deriving DecidableEq, Repr

/-- What an operation leaves: its answer, the state after it, and its reports. -/
structure Traced (σ α : Type) where
  value : α
  state : σ
  log : List LogEntry := []

end RouteAudit
