import RouteAudit.Pattern.Matcher
import RouteAudit.Pattern.Reader
import RouteAudit.Segment

/-!
# Constraints of parameters

The constraint of a constrained parameter as a regular expression.
-/

namespace RouteAudit.Segment

/-- The regular expression in the parentheses of a constrained parameter. A segment without a
constraint has none, nor has one whose constraint breaks the rules of the notation. -/
def constraintPattern (support : Pattern.Support) (segment : Segment) :
    Except Pattern.Fault (Option Regex) :=
  match segment.shape with
  | .constrained _ inner =>
      match Pattern.read support inner with
      | .ok regex => .ok (some regex)
      | .error .malformed => .ok none
      | .error fault => .error fault
  | _ => .ok none

end RouteAudit.Segment
