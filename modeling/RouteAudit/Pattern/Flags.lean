import RouteAudit.Pattern.Cursor

/-!
# Inline flags

Letters that change the rules for a group, or for the whole expression.
-/

namespace RouteAudit.Pattern

/-- Inline flags, as sets of letters turned on and off. -/
structure FlagChange where
  on : List Char
  off : List Char

/-- The letters that are flags. -/
def isFlag (c : Char) : Bool :=
  "iLmsxatu".toList.contains c

/-- The flags for the rules of letters, of which only one can be turned on. -/
def isTypeFlag (c : Char) : Bool :=
  "aLu".toList.contains c

/-- The letters of flags turned on, from the given one on, and the mark behind them. -/
def readFlagsOn : Nat → List Char → Char → Reading (List Char × Char)
  | 0, _, _ => throw .outOfFuel
  | fuel + 1, before, c => do
      if c = 'L' ∨ (isTypeFlag c ∧ before.any fun d => isTypeFlag d && d != c) then refuse
      else match ← take with
        | some (.plain d) =>
            if d = ')' ∨ d = '-' ∨ d = ':' then return (c :: before, d)
            else if isFlag d then readFlagsOn fuel (c :: before) d
            else refuse
        | _ => refuse

/-- The letters of flags turned off, up to a colon. -/
def readFlagsOff : Nat → List Char → Reading (List Char)
  | 0, _ => throw .outOfFuel
  | fuel + 1, before => do
      match ← take with
      | some (.plain c) =>
          if c = ':' ∧ before ≠ [] then return before
          else if isFlag c ∧ !isTypeFlag c then readFlagsOff fuel (c :: before)
          else refuse
      | _ => refuse

/-- What letters turned on and the mark behind them come to: flags for the whole expression, which
are noted, or a change of flags, whose other letters are read. -/
def settleFlags (fuel : Nat) (on : List Char) (mark : Char) : Reading (Option FlagChange) := do
  if mark = ')' then
    modify fun state => { state with flags := { state.flags with
      ignoreCase := state.flags.ignoreCase || on.contains 'i'
      multiline := state.flags.multiline || on.contains 'm'
      dotAll := state.flags.dotAll || on.contains 's'
      verbose := state.flags.verbose || on.contains 'x'
      ascii := state.flags.ascii || on.contains 'a'
      unicode := state.flags.unicode || on.contains 'u'
      template := state.flags.template || on.contains 't' } }
    return none
  else if on.contains 't' then refuse
  else
    let off ← if mark = '-' then readFlagsOff fuel [] else pure []
    if off.contains 't' ∨ on.any off.contains then refuse
    else return some ⟨on, off⟩

/-- Inline flags from their first character on; nothing if they hold for the whole expression. -/
def readFlags (first : Char) : Reading (Option FlagChange) := do
  let fuel := (← get).rest.length + 1
  if first = '-' then settleFlags fuel [] '-'
  else
    let (on, mark) ← readFlagsOn fuel [] first
    settleFlags fuel on mark

/-- The flags inside a group that changes them. -/
def Scope.change (scope : Scope) (change : FlagChange) : Scope :=
  let flag (letter : Char) (now : Bool) : Bool :=
    (now || change.on.contains letter) && !change.off.contains letter
  { scope with
    ignoreCase := flag 'i' scope.ignoreCase
    multiline := flag 'm' scope.multiline
    dotAll := flag 's' scope.dotAll
    verbose := flag 'x' scope.verbose
    ascii := change.on.contains 'a' || (scope.ascii && !change.on.contains 'u') }

end RouteAudit.Pattern
