import RouteAudit.Text.CodePoint

/-!
# Tokens of pattern texts

The text of a regular expression as single code points and code points behind a backslash.
-/

namespace RouteAudit.Pattern

/-- A part of a pattern text. -/
inductive Token where
  | plain (c : Char)
  | escaped (c : Char)
  /-- A code point that is no character and stands for itself, with a backslash or without. -/
  | lone (isEscaped : Bool) (code : Nat)
  /-- A backslash with nothing behind it. -/
  | dangling
  deriving DecidableEq, Repr

/-- The code point of the backslash. -/
def backslash : Nat := '\\'.toNat

/-- The token of a code point without a backslash. -/
def Token.ofCode (code : Nat) : Token :=
  if code.isValidChar then .plain (Char.ofNat code) else .lone false code

/-- The token of a code point behind a backslash. -/
def Token.ofEscaped (code : Nat) : Token :=
  if code.isValidChar then .escaped (Char.ofNat code) else .lone true code

/-- The tokens of code points. -/
def tokens : List Nat → List Token
  | [] => []
  | [code] => if code = backslash then [.dangling] else [.ofCode code]
  | code :: next :: rest =>
      if code = backslash then .ofEscaped next :: tokens rest
      else .ofCode code :: tokens (next :: rest)

/-- The code points of a token. -/
def Token.codes : Token → List Nat
  | plain c => [c.toNat]
  | escaped c => [backslash, c.toNat]
  | lone isEscaped code => if isEscaped then [backslash, code] else [code]
  | dangling => [backslash]

/-- The text of a token. -/
def Token.chars (token : Token) : List Char :=
  Text.ofCodes token.codes

end RouteAudit.Pattern
