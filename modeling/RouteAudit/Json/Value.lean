import RouteAudit.Named

/-!
# JSON values

Documents, options and cached values are JSON. Whole numbers and floating-point numbers are told
apart, and the fields of an object keep their order.
-/

namespace RouteAudit

/-- A JSON value. -/
inductive Json where
  | null
  | bool (value : Bool)
  | int (value : Int)
  | float (value : Float)
  | string (value : String)
  | array (items : List Json)
  | object (fields : List (String × Json))
  deriving Inhabited

namespace Json

/-- Whether a value counts as true: all do but null, false, zeros and whatever is empty. -/
def truthy : Json → Bool
  | null => false
  | bool value => value
  | int value => value != 0
  | float value => value != 0.0
  | string value => value != ""
  | array items => !items.isEmpty
  | object fields => !fields.isEmpty

end Json

end RouteAudit
