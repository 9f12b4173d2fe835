import RouteAudit.Decimal.Layout
import RouteAudit.Json.Value
import RouteAudit.Text.Integer
import RouteAudit.Text.Quoted

/-!
# Values in messages

How a message shows a JSON value: texts are quoted, truth values and null are capitalised words,
lists and objects are written out with their parts shown the same way. Whole numbers are shown up
to a number of digits only.
-/

namespace RouteAudit.Json

/-- How a message shows a truth value. -/
def shownBool (value : Bool) : String :=
  if value then "True" else "False"

mutual

/-- A value as a message shows it. -/
def shown : Json → String
  | null => "None"
  | bool value => shownBool value
  | int value => toString value
  | float value => Decimal.Layout.standard.write value
  | string value => Text.quoted value
  | array items => "[" ++ ", ".intercalate (shownItems items) ++ "]"
  | object fields => "\x7b" ++ ", ".intercalate (shownFields fields) ++ "\x7d"

/-- The items of a list, each as a message shows it. -/
def shownItems : List Json → List String
  | [] => []
  | item :: rest => item.shown :: shownItems rest

/-- The fields of an object, each as a message shows it. -/
def shownFields : List (String × Json) → List String
  | [] => []
  | (name, value) :: rest => (Text.quoted name ++ ": " ++ value.shown) :: shownFields rest

end

/-- Whether a whole number has more digits than are converted. -/
def isLongNumber (value : Int) : Bool :=
  decide (Nat.pow 10 Text.digitLimit ≤ value.natAbs)

mutual

/-- Whether there is a whole number in a value that has more digits than are converted. -/
def hasLongNumber : Json → Bool
  | int value => isLongNumber value
  | array items => itemsHaveLongNumber items
  | object fields => fieldsHaveLongNumber fields
  | null | bool _ | float _ | string _ => false

/-- Whether there is such a number in an item. -/
def itemsHaveLongNumber : List Json → Bool
  | [] => false
  | item :: rest => item.hasLongNumber || itemsHaveLongNumber rest

/-- Whether there is such a number in a field. -/
def fieldsHaveLongNumber : List (String × Json) → Bool
  | [] => false
  | (_, value) :: rest => value.hasLongNumber || fieldsHaveLongNumber rest

end

end RouteAudit.Json
