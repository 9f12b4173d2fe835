import RouteAudit.Cache
import RouteAudit.Level
import RouteAudit.Segment

/-!
# Canonical forms of paths

Two paths have the same canonical form exactly if they are to count as the same route. A
normalizer computes canonical forms and remembers them in a cache.
-/

namespace RouteAudit

/-- The text of a path at the raw level: as it is, behind exactly one slash. -/
def rawForm (path : String) : String :=
  String.ofList ('/' :: Path.dropSlashes path.toList)

/-- The text of a path once its segments are normalized. -/
def segmentForm (path : String) : String :=
  "/" ++ "/".intercalate ((Segment.ofPath path).map Segment.normalized)

/-- The canonical form of a path, computed afresh. -/
def canonicalForm (path : String) (level : Level) : String :=
  if path = "" then "/"
  else match level with
    | .raw => rawForm path
    | .relaxed => segmentForm path
    | .strict => segmentForm path

/-- What a canonical form is remembered under. Whether constraints are to be kept apart makes no
difference to the form, but the forms are remembered apart. -/
structure FormKey where
  path : String
  level : Level
  keepConstraints : Bool
  deriving DecidableEq, Repr

/-- A source of canonical forms with a memory. -/
structure Normalizer where
  cache : Cache FormKey String

namespace Normalizer

/-- The capacity of a normalizer that is given none. -/
def defaultCapacity : Nat := 2000

/-- A normalizer without memories. -/
def create (capacity : Whole) : Except CapacityFault Normalizer :=
  (Cache.create capacity).map Normalizer.mk

/-- A normalizer of the usual capacity. -/
def fresh : Normalizer :=
  ⟨{ capacity := defaultCapacity, capacity_pos := by decide }⟩

/-- The canonical form of a path. Forms at the raw level are not remembered. -/
def normalize (normalizer : Normalizer) (path : String) (level : Level) (keepConstraints : Bool) :
    String × Normalizer :=
  if path = "" then ("/", normalizer)
  else match level with
    | .raw => (rawForm path, normalizer)
    | _ =>
        let (form, cache) := normalizer.cache.getOrCompute ⟨path, level, keepConstraints⟩
          fun _ => segmentForm path
        (form, ⟨cache⟩)

/-- The canonical form at a level that the caller names by a value. -/
def normalizeAt (normalizer : Normalizer) (path : String) (given : Json) (keepConstraints : Bool) :
    Except LevelFault (String × Normalizer) :=
  (Level.ofJson given).map fun level => normalizer.normalize path level keepConstraints

end Normalizer

end RouteAudit
