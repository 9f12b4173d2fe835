import RouteAudit.Normalizer

/-!
# Conflicts between routes

How two paths that are registered for the same method relate. The first rule that applies decides:

1. paths that are written alike are duplicates;
2. paths of different lengths do not meet;
3. the first pair of aligned segments that clash decides;
4. paths with the same canonical form differ in the names of their parameters only;
5. all others do not conflict.
-/

namespace RouteAudit

/-- How two aligned segments can clash. -/
inductive Clash where
  /-- Exactly one of them matches anything. -/
  | wildcard
  /-- Exactly one of them stands for itself. -/
  | staticDynamic
  /-- Both have constraints, and different ones. -/
  | constraints
  deriving DecidableEq, Repr

/-- How two paths relate. -/
inductive Verdict where
  /-- The paths are written alike. -/
  | identical
  | differentLengths
  | clash (kind : Clash) (left right : Segment)
  /-- Only the names of parameters differ. -/
  | renamed
  | unrelated
  /-- The paths share a canonical form, and no other rule tells them apart. -/
  | sameForm
  deriving DecidableEq, Repr

/-- The kinds of relation that reports distinguish. -/
inductive ConflictKind where
  | none
  | exactDuplicate
  | paramName
  | staticVsDynamic
  | wildcard
  | differentConstraints
  deriving DecidableEq, Repr

namespace ConflictKind

/-- The name of a kind in reports. -/
def label : ConflictKind → String
  | none => "none"
  | exactDuplicate => "exact"
  | paramName => "param-name"
  | staticVsDynamic => "static-dynamic"
  | wildcard => "wildcard"
  | differentConstraints => "different-constraints"

/-- Whether the kind says that one route is registered twice. -/
def isDuplicate : ConflictKind → Bool
  | exactDuplicate => true
  | paramName => true
  | _ => false

end ConflictKind

/-- The clash of two aligned segments, if they clash. -/
def Clash.of? (left right : Segment) : Option Clash :=
  if left.isWildcard != right.isWildcard then some .wildcard
  else if left.isStatic != right.isStatic then some .staticDynamic
  else match left.constraint?, right.constraint? with
    | some c, some d => if c ≠ d then some .constraints else none
    | _, _ => none

/-- The first clash of aligned segments. -/
def firstClash? : List Segment → List Segment → Option (Clash × Segment × Segment)
  | left :: lefts, right :: rights =>
      match Clash.of? left right with
      | some kind => some (kind, left, right)
      | none => firstClash? lefts rights
  | _, _ => none

namespace Verdict

/-- The kind of a verdict. -/
def kind : Verdict → ConflictKind
  | identical => .exactDuplicate
  | differentLengths => .none
  | clash .wildcard _ _ => .wildcard
  | clash .staticDynamic _ _ => .staticVsDynamic
  | clash .constraints _ _ => .differentConstraints
  | renamed => .paramName
  | unrelated => .none
  | sameForm => .exactDuplicate

/-- The verdict in words. -/
def message : Verdict → String
  | identical => "Exact duplicate route paths"
  | differentLengths => "Different path lengths"
  | clash .wildcard _ _ => "Wildcard conflicts with specific path segment"
  | clash .staticDynamic _ _ => "Static path segment conflicts with dynamic parameter"
  | clash .constraints _ _ => "Parameters have different regex constraints"
  | renamed => "Routes have different parameter names but same structure"
  | unrelated => "No conflict detected"
  | sameForm => "Same normalized path"

/-- The segments that clash. -/
def segments? : Verdict → Option (Segment × Segment)
  | clash _ left right => some (left, right)
  | _ => none

/-- Whether the paths conflict. -/
def isConflict (verdict : Verdict) : Bool :=
  verdict.kind != .none

/-- The verdict of the rules that need no canonical form. -/
def bySegments? (left right : String) : Option Verdict :=
  if left = right then some identical
  else
    let lefts := Segment.ofPath left
    let rights := Segment.ofPath right
    if lefts.length ≠ rights.length then some differentLengths
    else (firstClash? lefts rights).map fun (kind, a, b) => clash kind a b

end Verdict

namespace Normalizer

/-- How two paths relate at a level, with the memory of the normalizer. -/
def compare (normalizer : Normalizer) (left right : String) (level : Level) :
    Verdict × Normalizer :=
  match Verdict.bySegments? left right, level with
  | some verdict, _ => (verdict, normalizer)
  | none, .raw => (.unrelated, normalizer)
  | none, _ =>
      let (leftForm, normalizer) := normalizer.normalize left level false
      let (rightForm, normalizer) := normalizer.normalize right level false
      (if leftForm = rightForm then .renamed else .unrelated, normalizer)

/-- How two paths relate at a level that the caller names by a number. A number that is no level
is refused only where a canonical form is needed. -/
def compareAt (normalizer : Normalizer) (left right : String) (given : Json) :
    Except LevelFault (Verdict × Normalizer) :=
  match Verdict.bySegments? left right with
  | some verdict => .ok (verdict, normalizer)
  | none =>
      if given.isPositive then
        (Level.ofJson given).map fun level => normalizer.compare left right level
      else .ok (.unrelated, normalizer)

end Normalizer

end RouteAudit
