import RouteAudit.Pattern.Cursor
import RouteAudit.Text.Numeral

/-!
# Escapes and classes

What a backslash and the characters behind it stand for, and the members of a class in brackets.
-/

namespace RouteAudit.Pattern

/-- A code point of exactly `count` hexadecimal digits. -/
def takeHex (count : Nat) : Reading Nat := do
  let digits ← takeWhile (fun c => (Text.hexDigit? c).isSome) count
  let code := Text.hexValue digits
  if digits.length < count ∨ 0x10FFFF < code then refuse else return code

/-- A code point by its name in braces. -/
def takeNamedCode : Reading Nat := do
  expect '\x7b'
  let name ← takeName '\x7d'
  match (← get).character? (String.ofList name) with
  | some code => return code
  | none => refuse

/-- The control characters that have a letter. -/
def controlCode? : Char → Option Nat
  | 'a' => some 7
  | 'b' => some 8
  | 'f' => some 12
  | 'n' => some 10
  | 'r' => some 13
  | 't' => some 9
  | 'v' => some 11
  | '\\' => some 92
  | _ => none

/-- The named sets of characters that have a letter; capitals stand for all other characters. -/
def namedSet? : Char → Option ClassItem
  | 'd' => some (.named false .digit)
  | 'D' => some (.named true .digit)
  | 's' => some (.named false .space)
  | 'S' => some (.named true .space)
  | 'w' => some (.named false .word)
  | 'W' => some (.named true .word)
  | _ => none

/-- The code point behind a backslash where the same rules hold inside and outside of classes. -/
def readCode (c : Char) : Reading Nat := do
  if c = 'x' then takeHex 2
  else if c = 'u' then takeHex 4
  else if c = 'U' then takeHex 8
  else if c = 'N' then takeNamedCode
  else if c.isAlpha then refuse
  else return c.toNat

/-- What a backslash and a character stand for inside a class. -/
def readClassEscape (c : Char) : Reading ClassItem := do
  match controlCode? c, namedSet? c with
  | some code, _ => return .range code code
  | none, some item => return item
  | none, none =>
      if Text.isOctalDigit c then
        let code := Text.octalValue (c :: (← takeWhile Text.isOctalDigit 2))
        if 0o377 < code then refuse else return .range code code
      else if c.isDigit then refuse
      else
        let code ← readCode c
        return .range code code

/-- Whether a group can be referred to: it is closed, and inside a condition on the text before it
was opened ahead of that. -/
def canRefer (state : Progress) (index : Nat) : Bool :=
  ((state.groups[index - 1]?).join).isSome && state.behind.all (index < ·)

/-- A reference back to a group. -/
def readAgain (scope : Scope) (index : Nat) : Reading Item := do
  let state ← get
  match (state.groups[index - 1]?).join with
  | some width =>
      if 0 < index ∧ canRefer state index then
        return ⟨.other, .again index scope.letters, width⟩
      else refuse
  | none => refuse

/-- What a backslash and a character stand for outside of classes. -/
def readEscape (scope : Scope) (c : Char) : Reading Item := do
  let literal (code : Nat) : Reading Item :=
    return ⟨.other, .single (.code scope.letters code)⟩
  let anchor (condition : Anchor) : Reading Item :=
    return ⟨.anchor, .mark (.anchor condition)⟩
  match c with
  | 'A' => anchor .textStart
  | 'Z' => anchor .textEnd
  | 'b' => anchor (.wordEdge scope.ascii)
  | 'B' => anchor (.wordInner scope.ascii)
  | _ =>
      match namedSet? c, controlCode? c with
      | some item, _ => return ⟨.other, .single (scope.charClass false [item])⟩
      | none, some code => literal code
      | none, none =>
          if c = '0' then literal (Text.octalValue (← takeWhile Text.isOctalDigit 2))
          else if c.isDigit then
            match ← takeWhile Char.isDigit 1 with
            | [d] =>
                if Text.isOctalDigit c && Text.isOctalDigit d then
                  match ← takeWhile Text.isOctalDigit 1 with
                  | [e] =>
                      let code := Text.octalValue [c, d, e]
                      if 0o377 < code then refuse else literal code
                  | _ => readAgain scope (Text.decimalValue [c, d])
                else readAgain scope (Text.decimalValue [c, d])
            | _ => readAgain scope (Text.decimalValue [c])
          else literal (← readCode c)

/-- One end of a range, or a single item, of a class. -/
def readClassItem : Token → Reading ClassItem
  | .escaped c => readClassEscape c
  | .plain c => return .range c.toNat c.toNat
  | .lone _ code => return .range code code
  | .dangling => refuse

/-- The items of a class up to its closing bracket. -/
def readClass : Nat → List ClassItem → Reading (List ClassItem)
  | 0, _ => throw .outOfFuel
  | fuel + 1, items => do
      match ← take with
      | none => refuse
      | some token =>
          if token = .plain ']' ∧ items ≠ [] then return items
          else
            let item ← readClassItem token
            if ← accept '-' then
              match ← take with
              | none => refuse
              | some last =>
                  if last = .plain ']' then return .range 45 45 :: item :: items
                  else
                    match item, ← readClassItem last with
                    | .range low _, .range high _ =>
                        if high < low then refuse
                        else readClass fuel (.range low high :: items)
                    | _, _ => refuse
            else readClass fuel (item :: items)

end RouteAudit.Pattern
