import RouteAudit.Pattern.Part
import RouteAudit.Pattern.Token

/-!
# A cursor over a pattern text

What reading a regular expression keeps track of, and the steps it is made of: looking at the next
token, taking it, and refusing the text.
-/

namespace RouteAudit.Pattern

/-- Why a text is no regular expression. -/
inductive Fault where
  /-- The text breaks the rules of the notation. -/
  | malformed
  /-- A bound on repetitions is too large. -/
  | repetitionTooLarge
  /-- Two flags for the whole expression exclude each other. -/
  | flagsIncompatible
  /-- A bound on repetitions has more digits than are converted. -/
  | tooManyDigits (count : Nat)
  /-- The machine has no room to read the text. -/
  | noRoom (message : String)
  /-- The fuel was too short for the text. This is no fault of the text, and no text is refused for
  it. -/
  | outOfFuel
  deriving DecidableEq, Repr

/-- The flags that govern a part of an expression. -/
structure Scope where
  ignoreCase : Bool := false
  multiline : Bool := false
  dotAll : Bool := false
  verbose : Bool := false
  ascii : Bool := false
  /-- Set by a flag for the whole expression only. -/
  unicode : Bool := false
  /-- Set by a flag for the whole expression only; it rules out repetitions. -/
  template : Bool := false

/-- How letters are compared under the flags. -/
def Scope.letters (scope : Scope) : CaseRule :=
  if !scope.ignoreCase then .exact else if scope.ascii then .ascii else .unicode

/-- A class of characters under the flags. -/
def Scope.charClass (scope : Scope) (negated : Bool) (items : List ClassItem) : Pattern :=
  .char { items, negated, ascii := scope.ascii, letters := scope.letters }

/-- What has been read and what is left. -/
structure Progress where
  rest : List Token
  /-- The code points of characters that can be named. -/
  character? : String → Option Nat
  /-- The flags for the whole expression. -/
  flags : Scope := {}
  /-- The names of groups and their numbers. -/
  names : List (String × Nat) := []
  /-- The width of each group from number one on; a group that is still open has none. -/
  groups : List (Option Width) := []
  /-- Inside a condition on the text before: the number of groups opened ahead of it, plus one. -/
  behind : Option Nat := none
  /-- The groups that alternatives depend on. -/
  conditions : List Nat := []
  /-- Whether a condition on the text before has no fixed width. -/
  varyingBehind : Bool := false

/-- A step of reading. -/
abbrev Reading := StateT Progress (Except Fault)

/-- Refuses the text. -/
def refuse {α : Type} : Reading α :=
  throw .malformed

/-- The next token. -/
def peek : Reading (Option Token) := do
  return (← get).rest.head?

/-- Takes the next token. A lone backslash is refused as soon as it comes next. -/
def take : Reading (Option Token) := do
  let state ← get
  match state.rest with
  | [] => return none
  | token :: rest =>
      if rest.head? = some .dangling then refuse
      else
        set { state with rest }
        return some token

/-- Takes the next token if it is the given character. -/
def accept (c : Char) : Reading Bool := do
  if (← peek) = some (.plain c) then
    let _ ← take
    return true
  else return false

/-- Takes the next token, which must be the given character. -/
def expect (c : Char) : Reading Unit := do
  if !(← accept c) then refuse

/-- Takes at most `count` characters as long as they satisfy a test. -/
def takeWhile (test : Char → Bool) : Nat → Reading (List Char)
  | 0 => return []
  | count + 1 => do
      match ← peek with
      | some (.plain c) =>
          if test c then
            let _ ← take
            return c :: (← takeWhile test count)
          else return []
      | _ => return []

/-- Takes the characters up to a mark, which is taken too; there must be some. -/
def takeUntil (mark : Char) : Nat → List Char → Reading (List Char)
  | 0, _ => throw .outOfFuel
  | fuel + 1, before => do
      match ← take with
      | none => refuse
      | some token =>
          if token = .plain mark then
            if before.isEmpty then refuse else return before.reverse
          else takeUntil mark fuel (token.chars.reverse ++ before)

/-- A name up to a mark. -/
def takeName (mark : Char) : Reading (List Char) := do
  takeUntil mark ((← get).rest.length + 1) []

end RouteAudit.Pattern
