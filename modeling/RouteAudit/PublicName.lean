import RouteAudit.Text.Quoted

/-!
# Public names

Where the parts of the public interface are defined.
-/

namespace RouteAudit.PublicName

/-- The name of the whole package. -/
def package : String := "routeguard"

/-- The public names and, below the package, the places of their definitions. -/
def places : List (String × String) :=
  [("AnalysisConfig", "config"),
    ("AnalysisResult", "analysis"),
    ("Analyzer", "analysis"),
    ("BoundedCache", "_internal.cache"),
    ("ConfigurationError", "errors"),
    ("ConflictKind", "routing.conflicts"),
    ("ConflictRecord", "routing.conflicts"),
    ("EventError", "errors"),
    ("FileEvents", "events"),
    ("Finding", "analysis"),
    ("PathNormalizer", "routing.normalize"),
    ("RouteGuardError", "errors"),
    ("RouteLedger", "routing.ledger"),
    ("RouteRecord", "routing.ledger"),
    ("RouterGraph", "routing.prefixes"),
    ("detect_conflict", "routing.conflicts"),
    ("join_paths", "routing.paths"),
    ("load_events", "events"),
    ("load_events_file", "events"),
    ("parse_path", "routing.segments")]

/-- The full name of the place where a public name is defined. -/
def place? (name : String) : Option String :=
  (places.lookup name).map fun place => package ++ "." ++ place

/-- The message for a name that is not public. -/
def missingText (name : String) : String :=
  s!"module {Text.quoted package} has no attribute {Text.quoted name}"

end RouteAudit.PublicName
