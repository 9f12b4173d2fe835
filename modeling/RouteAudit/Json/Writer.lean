import RouteAudit.Decimal.Layout
import RouteAudit.Json.Value
import RouteAudit.Text.CodePoint
import RouteAudit.Text.Numeral

/-!
# Written JSON

A value as JSON text on one line, in ASCII: every other character is an escape, those beyond the
basic plane a pair of them.
-/

namespace RouteAudit.Json

/-- A number below `0x10000` as an escape. -/
def writeUnit (unit : Nat) : List Char :=
  '\\' :: 'u' :: Text.hexDigits 4 unit

/-- One code point of a JSON string. -/
def writeCode (code : Nat) : List Char :=
  let c := Char.ofNat code
  if c = '"' ∨ c = '\\' then ['\\', c]
  else if 0x20 ≤ code ∧ code < 0x7F then [c]
  else if code < 0x10000 then writeUnit code
  else
    let high := 0xD800 + (code - 0x10000) / 0x400
    let low := 0xDC00 + (code - 0x10000) % 0x400
    writeUnit high ++ writeUnit low

/-- A JSON string. -/
def writeString (text : String) : String :=
  String.ofList ('"' :: (Text.codes text.toList).flatMap writeCode ++ ['"'])

/-- JSON numbers are laid out as in messages, but spell out the names of the infinities. -/
def numberLayout : Decimal.Layout :=
  { Decimal.Layout.standard with nan := "NaN", infinity := "Infinity" }

mutual

/-- The JSON text of a value. -/
def write : Json → String
  | null => "null"
  | bool value => if value then "true" else "false"
  | int value => toString value
  | float value => numberLayout.write value
  | string value => writeString value
  | array items => "[" ++ ", ".intercalate (writeItems items) ++ "]"
  | object fields => "\x7b" ++ ", ".intercalate (writeFields fields) ++ "\x7d"

/-- The JSON texts of the items of a list. -/
def writeItems : List Json → List String
  | [] => []
  | item :: rest => item.write :: writeItems rest

/-- The JSON texts of the fields of an object. -/
def writeFields : List (String × Json) → List String
  | [] => []
  | (name, value) :: rest => (writeString name ++ ": " ++ value.write) :: writeFields rest

end

end RouteAudit.Json
