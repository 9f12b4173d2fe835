import RouteAudit.Json.Compound
import RouteAudit.Whole

/-!
# Levels of normalization

How much of a path template counts when routes are compared: all of it, or all but the names and
constraints of parameters.
-/

namespace RouteAudit

/-- A level of normalization. The strict level normalizes like the relaxed one. -/
inductive Level where
  | raw
  | relaxed
  | strict
  deriving DecidableEq, Repr

/-- A value that is no level. -/
inductive LevelFault where
  | unknown (given : Json)
  | compound (kind : Compound)

/-- The message for a value that is no level. -/
def LevelFault.message : LevelFault → String
  | unknown given => s!"Normalization level must be 0, 1 or 2, got {given.shown}."
  | compound kind => kind.message

namespace Level

/-- The number of a level. -/
def number : Level → Int
  | raw => 0
  | relaxed => 1
  | strict => 2

/-- The level whose number a value equals. -/
def ofJson? (given : Json) : Option Level :=
  [raw, relaxed, strict].find? fun level => given.isNumber level.number

/-- The level that a caller asks for. -/
def ofJson (given : Json) : Except LevelFault Level :=
  match given.compound?, ofJson? given with
  | some kind, _ => .error (.compound kind)
  | none, some level => .ok level
  | none, none => .error (.unknown given)

/-- Every level is found by its number. -/
@[simp] theorem ofJson?_number (level : Level) : ofJson? (.int level.number) = some level := by
  cases level <;> rfl

end Level

end RouteAudit
