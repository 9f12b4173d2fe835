import RouteAudit.Json.Value

/-!
# Lists and objects as members

A value can be looked up in a set of values unless it is a list or an object.
-/

namespace RouteAudit

/-- The two kinds of values that have parts. -/
inductive Compound where
  | list
  | object
  deriving DecidableEq, Repr

/-- The message when a list or an object is looked up in a set. -/
def Compound.message : Compound → String
  | list => "unhashable type: 'list'"
  | object => "unhashable type: 'dict'"

/-- Whether a value is a list or an object. -/
def Json.compound? : Json → Option Compound
  | array _ => some .list
  | object _ => some .object
  | _ => none

end RouteAudit
