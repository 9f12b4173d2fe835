import RouteAudit.Path

/-!
# Segments of path templates

A path template is a path whose fragments may stand for varying text:

* `users` stands for itself;
* `:id` is a parameter, `:id?` an optional one;
* `:id(\d+)` is a parameter with a constraint on its text;
* `:from-:to` is two parameters in one fragment;
* `*`, `**` and `:rest*` match anything.
-/

namespace RouteAudit

/-- What a fragment of a path template stands for. -/
inductive Shape where
  | literal
  /-- A parameter, perhaps one that may be missing. -/
  | param (name : String) (optional : Bool)
  /-- A parameter with the text that stands in the parentheses behind its name. -/
  | constrained (name inner : String)
  | compound (first second : String)
  /-- Anything; the name is given where the wildcard has one. -/
  | wildcard (name : Option String)
  deriving DecidableEq, Repr

/-- The kinds of segments, without their names and constraints. -/
inductive SegmentKind where
  | static
  | param
  | optionalParam
  | constrainedParam
  | wildcard
  | compoundParam
  deriving DecidableEq, Repr

/-- The name of a kind in reports. -/
def SegmentKind.label : SegmentKind → String
  | static => "static"
  | param => "param"
  | optionalParam => "optional-param"
  | constrainedParam => "constrained-param"
  | wildcard => "wildcard"
  | compoundParam => "compound-param"

/-- A fragment of a path template and what it stands for. -/
structure Segment where
  raw : String
  shape : Shape
  deriving DecidableEq, Repr

namespace Segment

/-- The kind of a segment. -/
def kind (segment : Segment) : SegmentKind :=
  match segment.shape with
  | .literal => .static
  | .param _ optional => if optional then .optionalParam else .param
  | .constrained _ _ => .constrainedParam
  | .compound _ _ => .compoundParam
  | .wildcard _ => .wildcard

/-- The text of a segment once the names and constraints of parameters are forgotten. -/
def normalized (segment : Segment) : String :=
  match segment.shape with
  | .literal => segment.raw
  | .param _ optional => if optional then ":param?" else ":param"
  | .constrained _ _ => ":param"
  | .compound _ _ => ":param-:param"
  | .wildcard _ => "*"

/-- The name of the parameter; two parameters in one fragment have their names joined. -/
def paramName? (segment : Segment) : Option String :=
  match segment.shape with
  | .literal => none
  | .param name _ => some name
  | .constrained name _ => some name
  | .compound first second => some (first ++ "-" ++ second)
  | .wildcard name => name

/-- The constraint on the parameter, with its parentheses. -/
def constraint? (segment : Segment) : Option String :=
  match segment.shape with
  | .constrained _ inner => some ("(" ++ inner ++ ")")
  | _ => none

/-- Whether a segment stands for itself. -/
def isStatic (segment : Segment) : Bool :=
  segment.kind == .static

/-- Whether a segment matches anything. -/
def isWildcard (segment : Segment) : Bool :=
  segment.kind == .wildcard

/-- Whether a segment is a parameter of some kind. -/
def isParam (segment : Segment) : Bool :=
  !segment.isStatic && !segment.isWildcard

/-! ## Reading a segment

The three forms below are tried in turn on the text behind the colon, less one question mark at
its end. A line feed at the very end of the text is no obstacle to the first two. -/

/-- A text without the line feed at its end, if it has one. -/
def dropFinalNewline (chars : List Char) : List Char :=
  if chars.getLast? = some '\n' then chars.dropLast else chars

/-- The name in `name*`: it is not empty and holds no parenthesis that opens. -/
def wildcardName? (body : List Char) : Option (List Char) :=
  let body := dropFinalNewline body
  let name := body.dropLast
  if body.getLast? = some '*' ∧ name ≠ [] ∧ '(' ∉ name then some name else none

/-- The name and the constraint in `name(constraint)`: neither is empty, the name ends at the
first parenthesis, and the constraint lies on one line. -/
def constrainedParts? (body : List Char) : Option (List Char × List Char) :=
  let name := body.takeWhile (· != '(')
  match dropFinalNewline (body.dropWhile (· != '(')) with
  | _ :: rest =>
      let inner := rest.dropLast
      if name ≠ [] ∧ rest.getLast? = some ')' ∧ inner ≠ [] ∧ '\n' ∉ inner then some (name, inner)
      else none
  | [] => none

/-- Whether a character may occur in one of two names that share a fragment. -/
def isCompoundChar (c : Char) : Bool :=
  c != '-' && c != ':' && c != '('

/-- The names in `first-second` and `first-:second`. -/
def compoundParts? (body : List Char) : Option (List Char × List Char) :=
  let first := body.takeWhile isCompoundChar
  let second := match body.dropWhile isCompoundChar with
    | '-' :: ':' :: rest => rest
    | '-' :: rest => rest
    | _ => []
  if first ≠ [] ∧ second ≠ [] ∧ second.all isCompoundChar then some (first, second) else none

/-- What the text behind a colon stands for. -/
def paramShape (body : List Char) (optional : Bool) : Shape :=
  match wildcardName? body with
  | some name => .wildcard (some (String.ofList name))
  | none =>
      match constrainedParts? body with
      | some (name, inner) => .constrained (String.ofList name) (String.ofList inner)
      | none =>
          match compoundParts? body with
          | some (first, second) => .compound (String.ofList first) (String.ofList second)
          | none => .param (String.ofList body) optional

/-- What a fragment stands for. -/
def shapeOf (chars : List Char) : Shape :=
  match chars with
  | ['*'] => .wildcard none
  | ['*', '*'] => .wildcard none
  | ':' :: body =>
      if body.getLast? = some '?' then paramShape body.dropLast true else paramShape body false
  | _ => .literal

/-- Reads one fragment of a path template. -/
def parse (raw : String) : Segment :=
  ⟨raw, shapeOf raw.toList⟩

/-- The segments of a path template. -/
def ofPath (path : String) : List Segment :=
  (Path.split path).map parse

end Segment

end RouteAudit
