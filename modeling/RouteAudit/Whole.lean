import RouteAudit.Json.Shown

/-!
# Whole numbers in documents

Where a document has to hold a whole number it may also hold a truth value, which counts as zero
or one but keeps its own spelling.
-/

namespace RouteAudit

/-- A whole number, or a truth value in its place. -/
inductive Whole where
  | number (value : Int)
  | truth (value : Bool)
  deriving DecidableEq, Repr

namespace Whole

/-- The number that a value counts as. -/
def toInt : Whole → Int
  | number value => value
  | truth value => if value then 1 else 0

/-- The value in a text. -/
def text : Whole → String
  | number value => toString value
  | truth value => Json.shownBool value

/-- Whether a value has more digits than are converted to a text. -/
def isLong : Whole → Bool
  | number value => Json.isLongNumber value
  | truth _ => false

/-- The value in a document. -/
def toJson : Whole → Json
  | number value => .int value
  | truth value => .bool value

/-- The value that a document holds, if it holds a whole number. -/
def ofJson? : Json → Option Whole
  | .int value => some (number value)
  | .bool value => some (truth value)
  | _ => none

/-- Reading a value back from a document gives the same value. -/
@[simp] theorem ofJson?_toJson (whole : Whole) : ofJson? whole.toJson = some whole := by
  cases whole <;> rfl

end Whole

namespace Json

/-- Whether a value is a number equal to the given one; truth values count as zero and one. -/
def isNumber (value : Json) (number : Int) : Bool :=
  match value with
  | int n => n == number
  | bool b => (Whole.truth b).toInt == number
  | float x => x == Float.ofInt number
  | _ => false

/-- Whether a value is a number above zero. -/
def isPositive : Json → Bool
  | int n => decide (0 < n)
  | bool b => b
  | float x => decide (0.0 < x)
  | _ => false

end Json

end RouteAudit
