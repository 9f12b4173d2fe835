import RouteAudit.Pattern.Escape
import RouteAudit.Pattern.Flags
import RouteAudit.Text.Identifier
import RouteAudit.Text.Integer

/-!
# Reading patterns

Reads the text of a regular expression: groups by number and by name, references back to them,
alternatives, greedy, lazy and possessive repetitions, atomic groups, conditions on the text ahead
and on a fixed width of text before, and inline flags, those for all of it only at the start.

A text is refused at its first fault, except for what only the finished expression shows: a
condition on the text before whose width varies.
-/

namespace RouteAudit.Pattern

/-- The first number that is too large to bound repetitions. -/
def repetitionLimit : Nat := Nat.pow 2 32 - 1

/-- A bound on repetitions. -/
def readBound (digits : List Char) : Reading (Option Nat) := do
  if digits.isEmpty then return none
  else if Text.digitLimit < digits.length then throw (.tooManyDigits digits.length)
  else
    let bound := Text.decimalValue digits
    if repetitionLimit ≤ bound then throw .repetitionTooLarge else return some bound

/-- The bounds with the given digits, if a closing brace stands behind them. Else reading goes back
to where it started. -/
def closeBounds (start : Progress) (low high : List Char) :
    Reading (Option (Nat × Option Nat)) := do
  if ← accept '\x7d' then
    let least ← readBound low
    let most ← readBound high
    if most.any (· < least.getD 0) then refuse
    else return some (least.getD 0, most)
  else
    set start
    return none

/-- The bounds behind an opening brace up to the closing one. Where no bounds stand there, nothing
is taken and the brace is a character like others. -/
def readBounds : Reading (Option (Nat × Option Nat)) := do
  let start ← get
  if (← peek) = some (.plain '\x7d') then return none
  else
    let count := start.rest.length
    let low ← takeWhile Char.isDigit count
    let high ← if ← accept ',' then takeWhile Char.isDigit count else pure low
    closeBounds start low high

/-- Which number of repetitions is tried first, by the mark behind the bounds. -/
def readGreed : Reading Greed := do
  if ← accept '?' then return .lazy
  else if ← accept '+' then return .possessive
  else return .greedy

/-- Repeats the last item of a sequence. -/
def readLoop (items : List Item) (least : Nat) (most : Option Nat) : Reading (List Item) := do
  match items with
  | [] => refuse
  | item :: before =>
      if item.kind ≠ .other then refuse
      else
        let greed ← readGreed
        let part : Part :=
          ⟨.loop greed least most item.part.pattern, item.part.width.times least most⟩
        return ⟨.loop, part⟩ :: before

/-- What stands between an opening parenthesis and the contents of a group. -/
inductive Opening where
  | capture (name : Option String)
  | plain (change : FlagChange)
  | atomic
  | look (behind negated : Bool)
  | condition (index : Nat)
  /-- A reference by name, which is read to its end. -/
  | item (item : Item)
  /-- A comment, which is read to its end. -/
  | comment
  /-- Flags for the whole expression, read to their end. -/
  | globalFlags

/-- Takes everything up to a closing parenthesis. -/
def skipComment : Nat → Reading Unit
  | 0 => throw .outOfFuel
  | fuel + 1 => do
      match ← take with
      | none => refuse
      | some token => if token = .plain ')' then return () else skipComment fuel

/-- The group that an alternative depends on, by name or by number. -/
def readCondition : Reading Nat := do
  let name ← takeName ')'
  let state ← get
  let index ←
    if Text.isIdentifier name then
      match state.names.lookup (String.ofList name) with
      | some index => pure index
      | none => refuse
    else
      match Text.readInteger? (String.ofList name) with
      | some number =>
          if number ≤ 0 then refuse
          else
            set { state with conditions := number.toNat :: state.conditions }
            pure number.toNat
      | none => refuse
  if state.behind.isSome && !canRefer state index then refuse else return index

/-- What follows the capital letter that marks named groups and references to them. -/
def readNamed (scope : Scope) : Reading Opening := do
  if ← accept '<' then
    let name ← takeName '>'
    if Text.isIdentifier name then return .capture (some (String.ofList name)) else refuse
  else if ← accept '=' then
    let name ← takeName ')'
    match (← get).names.lookup (String.ofList name) with
    | some index => return .item (← readAgain scope index)
    | none => refuse
  else refuse

/-- Reads on behind an opening parenthesis. -/
def readOpening (scope : Scope) : Reading Opening := do
  if !(← accept '?') then return .capture none
  else match ← take with
    | some (.plain c) =>
        match c with
        | 'P' => readNamed scope
        | ':' => return .plain ⟨[], []⟩
        | '#' =>
            skipComment ((← get).rest.length + 1)
            return .comment
        | '=' => return .look false false
        | '!' => return .look false true
        | '<' =>
            if ← accept '=' then return .look true false
            else if ← accept '!' then return .look true true
            else refuse
        | '(' => return .condition (← readCondition)
        | '>' => return .atomic
        | _ =>
            if isFlag c ∨ c = '-' then
              match ← readFlags c with
              | some change => return .plain change
              | none => return .globalFlags
            else refuse
    | _ => refuse

/-- Opens a group with a number, and a name if it is to have one. -/
def openGroup (name : Option String) : Reading Nat := do
  let state ← get
  let index := state.groups.length + 1
  match name with
  | none =>
      set { state with groups := state.groups ++ [none] }
      return index
  | some name =>
      if (state.names.lookup name).isSome then refuse
      else
        set { state with groups := state.groups ++ [none], names := (name, index) :: state.names }
        return index

/-- Closes a group and notes its width. -/
def closeGroup (index : Nat) (width : Width) : Reading Unit :=
  modify fun state => { state with groups := state.groups.set (index - 1) (some width) }

/-- Whether a character is blank in a verbose expression. -/
def isVerboseBlank (c : Char) : Bool :=
  Text.isAsciiBlank c

/-- Takes the rest of a line, and its end. -/
def skipLine : Nat → Reading Unit
  | 0 => throw .outOfFuel
  | fuel + 1 => do
      match ← take with
      | none => return ()
      | some token => if token = .plain '\n' then return () else skipLine fuel

mutual

/-- Alternatives up to a closing parenthesis or the end. `top` holds outside of all groups. -/
def readChoice : Nat → (top : Bool) → Scope → Reading Part
  | 0, _, _ => throw .outOfFuel
  | fuel + 1, top, scope => do
      let first ← readItems fuel top scope []
      if ← accept '|' then readMore fuel top scope first else return first

/-- The alternatives behind those already read. -/
def readMore : Nat → (top : Bool) → Scope → Part → Reading Part
  | 0, _, _, _ => throw .outOfFuel
  | fuel + 1, top, scope, before => do
      let flags := (← get).flags
      let scope := if top then flags else scope
      let next ← readItems fuel false scope []
      let part : Part :=
        ⟨.choice before.pattern next.pattern, before.width.either next.width⟩
      if ← accept '|' then readMore fuel top scope part else return part

/-- A sequence of items, behind those already read, the last of them first. `first` holds in the
first alternative outside of all groups, where flags for the whole expression may stand. -/
def readItems : Nat → (first : Bool) → Scope → List Item → Reading Part
  | 0, _, _, _ => throw .outOfFuel
  | fuel + 1, first, scope, items => do
      match ← peek with
      | none => return sequence items
      | some (.plain '|') => return sequence items
      | some (.plain ')') => return sequence items
      | some token =>
          let _ ← take
          let literal (code : Nat) : Item := ⟨.other, .single (.code scope.letters code)⟩
          let bounded (least : Nat) (most : Option Nat) : Reading Part := do
            readItems fuel first scope (← readLoop items least most)
          match token with
          | .dangling => refuse
          | .lone _ code => readItems fuel first scope (literal code :: items)
          | .escaped c => readItems fuel first scope ((← readEscape scope c) :: items)
          | .plain c =>
              if scope.verbose && isVerboseBlank c then readItems fuel first scope items
              else if scope.verbose && c == '#' then
                skipLine ((← get).rest.length + 1)
                readItems fuel first scope items
              else match c with
                | '[' =>
                    let negated ← accept '^'
                    let members ← readClass ((← get).rest.length + 1) []
                    let item : Item := ⟨.other, .single (scope.charClass negated members)⟩
                    readItems fuel first scope (item :: items)
                | '?' => bounded 0 (some 1)
                | '*' => bounded 0 none
                | '+' => bounded 1 none
                | '\x7b' =>
                    match ← readBounds with
                    | some (least, most) => bounded least most
                    | none => readItems fuel first scope (literal c.toNat :: items)
                | '.' =>
                    let outside := if scope.dotAll then [] else [.range 10 10]
                    let any : Pattern := .char { items := outside, negated := true }
                    readItems fuel first scope (⟨.other, .single any⟩ :: items)
                | '^' =>
                    let condition := if scope.multiline then Anchor.lineStart else .textStart
                    readItems fuel first scope (⟨.anchor, .mark (.anchor condition)⟩ :: items)
                | '$' =>
                    let condition := if scope.multiline then Anchor.lineEnd else .lastLineEnd
                    readItems fuel first scope (⟨.anchor, .mark (.anchor condition)⟩ :: items)
                | '(' =>
                    match ← readOpening scope with
                    | .comment => readItems fuel first scope items
                    | .globalFlags =>
                        let flags := (← get).flags
                        if first && items.isEmpty then readItems fuel first flags items else refuse
                    | .item item => readItems fuel first scope (item :: items)
                    | .capture name =>
                        let index ← openGroup name
                        let body ← readChoice fuel false scope
                        expect ')'
                        closeGroup index body.width
                        let item : Item := ⟨.other, .group index body.pattern, body.width⟩
                        readItems fuel first scope (item :: items)
                    | .plain change =>
                        let body ← readChoice fuel false (scope.change change)
                        expect ')'
                        readItems fuel first scope (⟨.other, body⟩ :: items)
                    | .atomic =>
                        let body ← readChoice fuel false scope
                        expect ')'
                        let item : Item := ⟨.other, .atomic body.pattern, body.width⟩
                        readItems fuel first scope (item :: items)
                    | .look behind negated =>
                        let item ← readLook fuel scope behind negated
                        readItems fuel first scope (item :: items)
                    | .condition index =>
                        let item ← readIfGroup fuel scope index
                        readItems fuel first scope (item :: items)
                | _ => readItems fuel first scope (literal c.toNat :: items)

/-- A condition on the text ahead or before, behind its opening. -/
def readLook : Nat → Scope → (behind negated : Bool) → Reading Item
  | 0, _, _, _ => throw .outOfFuel
  | fuel + 1, scope, behind, negated => do
      let outer := (← get).behind
      if behind then
        modify fun state =>
          { state with behind := some (outer.getD (state.groups.length + 1)) }
      let body ← readChoice fuel false scope
      modify fun state => { state with behind := outer }
      expect ')'
      if behind && !body.width.isFixed then
        modify fun state => { state with varyingBehind := true }
      let distance := if behind then some body.width.least else none
      return ⟨.other, .mark (.look distance negated body.pattern)⟩

/-- Two sequences of which a group decides, behind their opening. -/
def readIfGroup : Nat → Scope → Nat → Reading Item
  | 0, _, _ => throw .outOfFuel
  | fuel + 1, scope, index => do
      let yes ← readItems fuel false scope []
      let no? ← if ← accept '|' then (do return some (← readItems fuel false scope []))
        else pure none
      expect ')'
      let no := no?.getD .nothing
      return ⟨.other, .ifGroup index yes.pattern no.pattern, yes.width.either no.width⟩

end

/-- What reading a regular expression relies on beside its text. -/
structure Support where
  /-- The code points of characters that can be named. -/
  character? : String → Option Nat
  /-- The error if there is no room to read a text as a regular expression. -/
  readingError? : String → Option String

/-- Reads the text of a regular expression. Every token costs at most three steps, so fuel for four
steps per token is enough. -/
def read (support : Support) (source : String) : Except Fault Regex := do
  if let some message := support.readingError? source then throw (.noRoom message)
  let tokens := tokens (Text.codes source.toList)
  if tokens.head? = some .dangling then throw .malformed
  let start : Progress := { rest := tokens, character? := support.character? }
  let (part, state) ← (readChoice (4 * tokens.length + 8) true {}).run start
  if state.flags.ascii && state.flags.unicode then throw .flagsIncompatible
  else if !state.rest.isEmpty || state.conditions.any (state.groups.length < ·) ||
      state.varyingBehind || (state.flags.template && part.pattern.hasLoop) then
    throw .malformed
  else return ⟨source, part.pattern, state.groups.length⟩

end RouteAudit.Pattern
