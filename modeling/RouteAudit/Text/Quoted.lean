import RouteAudit.Text.CodePoint
import RouteAudit.Text.Numeral
import RouteAudit.Text.Printable

/-!
# Quoted texts

How messages show a text: between quote marks, with escapes for what cannot be printed.
-/

namespace RouteAudit.Text

/-- The mark around a quoted text: the double quote if only single ones occur inside, else the
single quote. -/
def quoteMark (chars : List Char) : Char :=
  if chars.contains '\'' && !chars.contains '"' then '"' else '\''

/-- A code point as an escape of two, four or eight digits. -/
def escapeCode (code : Nat) : List Char :=
  if code < 0x100 then '\\' :: 'x' :: hexDigits 2 code
  else if code < 0x10000 then '\\' :: 'u' :: hexDigits 4 code
  else '\\' :: 'U' :: hexDigits 8 code

/-- One code point inside quote marks. -/
def quoteCode (quote : Char) (code : Nat) : List Char :=
  let c := Char.ofNat code
  if isSurrogate code then escapeCode code
  else if c = quote ∨ c = '\\' then ['\\', c]
  else if c = '\n' then ['\\', 'n']
  else if c = '\r' then ['\\', 'r']
  else if c = '\t' then ['\\', 't']
  else if isPrintable c then [c]
  else escapeCode code

/-- A text between quote marks, with the mark, backslashes and whatever cannot be printed escaped.
-/
def quoted (text : String) : String :=
  let quote := quoteMark text.toList
  String.ofList (quote :: (codes text.toList).flatMap (quoteCode quote) ++ [quote])

end RouteAudit.Text
