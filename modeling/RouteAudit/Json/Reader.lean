import RouteAudit.Decimal.Layout
import RouteAudit.Json.Value
import RouteAudit.Text.CodePoint
import RouteAudit.Text.Integer
import RouteAudit.Text.Numeral

/-!
# Reading JSON

Reads one value from a text. A text that is no JSON is refused at its first fault, which is named
by its line, its column and its place in the whole text.

Beside the standard's numbers the words `NaN`, `Infinity` and `-Infinity` are numbers. Of two
fields of one name the later value counts, in the place of the earlier. Half of a surrogate pair is
kept as a code point of its own.
-/

namespace RouteAudit.Json

/-- What can be wrong at a place of a text. -/
inductive Cause where
  | byteOrderMark
  | valueExpected
  | nameExpected
  | colonExpected
  | commaExpected
  | unterminatedString
  | controlCharacter
  | unknownEscape
  | brokenUnicodeEscape
  | extraData
  deriving DecidableEq, Repr

/-- The words for a cause. -/
def Cause.text : Cause → String
  | byteOrderMark => "Unexpected UTF-8 BOM (decode using utf-8-sig)"
  | valueExpected => "Expecting value"
  | nameExpected => "Expecting property name enclosed in double quotes"
  | colonExpected => "Expecting ':' delimiter"
  | commaExpected => "Expecting ',' delimiter"
  | unterminatedString => "Unterminated string starting at"
  | controlCharacter => "Invalid control character at"
  | unknownEscape => "Invalid \\escape"
  | brokenUnicodeEscape => "Invalid \\uXXXX escape"
  | extraData => "Extra data"

/-- Why a text cannot be read. -/
inductive Flaw where
  /-- A fault, placed by the number of characters from it to the end of the text. -/
  | malformed (cause : Cause) (left : Nat)
  /-- A whole number with more digits than are converted. -/
  | tooManyDigits (count : Nat)
  /-- The fuel was too short for the text. This is no flaw of the text, and no text is refused for
  it. -/
  | outOfFuel
  deriving DecidableEq, Repr

/-- Blank space between the parts of a document. -/
def isSpace (c : Char) : Bool :=
  c == ' ' || c == '\t' || c == '\n' || c == '\r'

/-- The text from its first character that is no blank space. -/
def skipSpace (chars : List Char) : List Char :=
  chars.dropWhile isSpace

/-- The character after a backslash, and what the two stand for. -/
def simpleEscape? : Char → Option Char
  | '"' => some '"'
  | '\\' => some '\\'
  | '/' => some '/'
  | 'b' => some '\x08'
  | 'f' => some '\x0c'
  | 'n' => some '\n'
  | 'r' => some '\r'
  | 't' => some '\t'
  | _ => none

/-- The code units of a string up to its closing quote, and the text behind it. The opening quote
stands `opening` characters before the end of the text. -/
def readUnits (opening : Nat) : List Char → Except Flaw (List Nat × List Char)
  | [] => .error (.malformed .unterminatedString opening)
  | '"' :: rest => .ok ([], rest)
  | ['\\'] => .error (.malformed .unterminatedString opening)
  | '\\' :: 'u' :: a :: b :: c :: d :: rest =>
      match rest, Text.hexDigit? a, Text.hexDigit? b, Text.hexDigit? c, Text.hexDigit? d with
      | _ :: _, some a', some b', some c', some d' =>
          (readUnits opening rest).map fun (units, after) =>
            ((((a' * 16 + b') * 16 + c') * 16 + d') :: units, after)
      | _, _, _, _, _ => .error (.malformed .brokenUnicodeEscape (rest.length + 5))
  | '\\' :: 'u' :: rest => .error (.malformed .brokenUnicodeEscape (rest.length + 1))
  | '\\' :: c :: rest =>
      match simpleEscape? c with
      | some e => (readUnits opening rest).map fun (units, after) => (e.toNat :: units, after)
      | none => .error (.malformed .unknownEscape (rest.length + 2))
  | c :: rest =>
      if c.toNat < 0x20 then .error (.malformed .controlCharacter (rest.length + 1))
      else (readUnits opening rest).map fun (units, after) => (c.toNat :: units, after)

/-- The code points that code units stand for: a high and a low surrogate are one code point. -/
def joinUnits : List Nat → List Nat
  | high :: low :: rest =>
      if 0xD800 ≤ high ∧ high < 0xDC00 ∧ 0xDC00 ≤ low ∧ low < 0xE000 then
        (0x10000 + (high - 0xD800) * 0x400 + (low - 0xDC00)) :: joinUnits rest
      else high :: joinUnits (low :: rest)
  | units => units

/-- The rest of a string after its opening quote, and the text behind it. -/
def readString (chars : List Char) : Except Flaw (String × List Char) :=
  (readUnits (chars.length + 1) chars).map fun (units, after) =>
    (String.ofList (Text.ofCodes (joinUnits units)), after)

/-- The digits at the start of a text, and the text behind them. -/
def readDigits (chars : List Char) : List Char × List Char :=
  chars.span Text.isDecimalDigit

/-- The fraction digits of a number, if a point and a digit follow. -/
def readFraction : List Char → List Char × List Char
  | '.' :: d :: rest =>
      if Text.isDecimalDigit d then readDigits (d :: rest) else ([], '.' :: d :: rest)
  | chars => ([], chars)

/-- The exponent of a number, if its mark and at least one digit follow. -/
def readExponent (chars : List Char) : Option Int × List Char :=
  let unsigned (negative : Bool) (rest : List Char) : Option Int × List Char :=
    let (digits, after) := readDigits rest
    if digits.isEmpty then (none, chars)
    else
      let value : Int := Text.decimalValue digits
      (some (if negative then -value else value), after)
  match chars with
  | mark :: '-' :: rest => if mark == 'e' || mark == 'E' then unsigned true rest else (none, chars)
  | mark :: '+' :: rest => if mark == 'e' || mark == 'E' then unsigned false rest else (none, chars)
  | mark :: rest => if mark == 'e' || mark == 'E' then unsigned false rest else (none, chars)
  | [] => (none, chars)

/-- A number without its sign, and the text behind it; nothing if there is no digit. -/
def readUnsigned? (negative : Bool) (chars : List Char) : Option (Except Flaw Json × List Char) :=
  let whole? : Option (List Char × List Char) :=
    match chars with
    | '0' :: rest => some (['0'], rest)
    | d :: rest =>
        if Text.isDecimalDigit d then some (readDigits (d :: rest)) else none
    | [] => none
  whole?.map fun (whole, rest) =>
    let (fraction, rest) := readFraction rest
    let (exponent, rest) := readExponent rest
    if fraction.isEmpty && exponent.isNone then
      if Text.digitLimit < whole.length then (.error (.tooManyDigits whole.length), rest)
      else
        let value : Int := Text.decimalValue whole
        (.ok (.int (if negative then -value else value)), rest)
    else
      let value := Decimal.readDouble (Text.decimalValue (whole ++ fraction))
        (exponent.getD 0 - fraction.length)
      (.ok (.float (if negative then -value else value)), rest)

/-- The positive infinity. -/
def infinity : Float := Float.ofBits 0x7FF0000000000000

/-- A number or one of the words that stand for a value, and the text behind it. -/
def readScalar (chars : List Char) : Except Flaw (Json × List Char) :=
  let refused : Except Flaw (Json × List Char) := .error (.malformed .valueExpected chars.length)
  let number (negative : Bool) (rest : List Char) : Except Flaw (Json × List Char) :=
    match readUnsigned? negative rest with
    | some (.ok value, after) => .ok (value, after)
    | some (.error flaw, _) => .error flaw
    | none => refused
  match chars with
  | 'n' :: 'u' :: 'l' :: 'l' :: rest => .ok (.null, rest)
  | 't' :: 'r' :: 'u' :: 'e' :: rest => .ok (.bool true, rest)
  | 'f' :: 'a' :: 'l' :: 's' :: 'e' :: rest => .ok (.bool false, rest)
  | 'N' :: 'a' :: 'N' :: rest => .ok (.float (Float.ofBits 0x7FF8000000000000), rest)
  | 'I' :: 'n' :: 'f' :: 'i' :: 'n' :: 'i' :: 't' :: 'y' :: rest => .ok (.float infinity, rest)
  | '-' :: 'I' :: 'n' :: 'f' :: 'i' :: 'n' :: 'i' :: 't' :: 'y' :: rest =>
      .ok (.float (-infinity), rest)
  | '-' :: rest => number true rest
  | _ => number false chars

mutual

/-- A value at the start of a text, and the text behind it. Each nesting and each further part
costs one unit of fuel. -/
def readValue : Nat → List Char → Except Flaw (Json × List Char)
  | 0, _ => .error .outOfFuel
  | _ + 1, '"' :: rest => (readString rest).map fun (text, after) => (.string text, after)
  | fuel + 1, '[' :: rest =>
      match skipSpace rest with
      | ']' :: after => .ok (.array [], after)
      | inside => (readItems fuel [] inside).map fun (items, after) => (.array items, after)
  | fuel + 1, '\x7b' :: rest =>
      match skipSpace rest with
      | '\x7d' :: after => .ok (.object [], after)
      | inside => (readFields fuel [] inside).map fun (fields, after) => (.object fields, after)
  | _ + 1, chars => readScalar chars

/-- The items of a list from its first or next item on, behind those already read. -/
def readItems : Nat → List Json → List Char → Except Flaw (List Json × List Char)
  | 0, _, _ => .error .outOfFuel
  | fuel + 1, before, chars => do
      let (item, after) ← readValue fuel chars
      match skipSpace after with
      | ']' :: rest => .ok ((item :: before).reverse, rest)
      | ',' :: rest => readItems fuel (item :: before) (skipSpace rest)
      | rest => .error (.malformed .commaExpected rest.length)

/-- The fields of an object from its first or next name on, behind those already read. -/
def readFields : Nat → Named Json → List Char →
    Except Flaw (Named Json × List Char)
  | 0, _, _ => .error .outOfFuel
  | fuel + 1, before, '"' :: chars => do
      let (name, after) ← readString chars
      match skipSpace after with
      | ':' :: rest =>
          let (value, after) ← readValue fuel (skipSpace rest)
          let fields := Named.put before name value
          match skipSpace after with
          | '\x7d' :: rest => .ok (fields, rest)
          | ',' :: rest => readFields fuel fields (skipSpace rest)
          | rest => .error (.malformed .commaExpected rest.length)
      | rest => .error (.malformed .colonExpected rest.length)
  | _ + 1, _, chars => .error (.malformed .nameExpected chars.length)

end

/-- Reads a text that is one JSON value with blank space around it. Every nesting and every part
takes a character, so fuel for two steps per character is enough. -/
def read (text : String) : Except Flaw Json :=
  match text.toList with
  | '\uFEFF' :: rest => .error (.malformed .byteOrderMark (rest.length + 1))
  | chars => do
      let (value, after) ← readValue (2 * chars.length + 2) (skipSpace chars)
      match skipSpace after with
      | [] => .ok value
      | rest => .error (.malformed .extraData rest.length)

/-- A place in a text: the line and the column count from one, the offset from zero. -/
structure Place where
  line : Nat
  column : Nat
  offset : Nat

/-- The place with a given number of characters before it. -/
def Place.after (before : List Char) : Place where
  line := before.count '\n' + 1
  column := (before.reverse.takeWhile (· != '\n')).length + 1
  offset := before.length

/-- The message for a flaw of a text. -/
def Flaw.message (text : String) : Flaw → String
  | malformed cause left =>
      let place := Place.after (text.toList.take (text.length - left))
      s!"{cause.text}: line {place.line} column {place.column} (char {place.offset})"
  | tooManyDigits count =>
      s!"Exceeds the limit ({Text.digitLimit} digits) for integer string conversion: " ++
        s!"value has {count} digits; use sys.set_int_max_str_digits() to increase the limit"
  | outOfFuel => ""

end RouteAudit.Json
