import RouteAudit.Text.CodePoint
import RouteAudit.Text.Numeral

/-!
# Texts in bytes

Reads UTF-8. Bytes that are no text are refused at the first of them, which is named with the
valid bytes of the character that it breaks off. The other way round a text is refused at its first
halves of surrogate pairs, which have no bytes.
-/

namespace RouteAudit.Text

/-- Why bytes are no text. -/
inductive Utf8Cause where
  | startByte
  | continuationByte
  | endOfData
  deriving DecidableEq, Repr

/-- A cause in words. -/
def Utf8Cause.text : Utf8Cause → String
  | startByte => "invalid start byte"
  | continuationByte => "invalid continuation byte"
  | endOfData => "unexpected end of data"

/-- Bytes that are no text: the place of the first, its value, and the number of bytes. -/
structure Utf8Fault where
  position : Nat
  byte : UInt8
  count : Nat
  cause : Utf8Cause
  deriving DecidableEq, Repr

/-- The message for bytes that are no text. -/
def Utf8Fault.message (fault : Utf8Fault) : String :=
  let where_ :=
    if fault.count = 1 then
      s!"byte 0x{String.ofList (hexDigits 2 fault.byte.toNat)} in position {fault.position}"
    else s!"bytes in position {fault.position}-{fault.position + fault.count - 1}"
  s!"'utf-8' codec can't decode {where_}: {fault.cause.text}"

/-- Halves of surrogate pairs that have no bytes: the place of the first, its value, and their
number. -/
structure EncodeFault where
  position : Nat
  code : Nat
  count : Nat
  deriving DecidableEq, Repr

/-- The message for code points that have no bytes. -/
def EncodeFault.message (fault : EncodeFault) : String :=
  let where_ :=
    if fault.count = 1 then
      s!"character '\\u{String.ofList (hexDigits 4 fault.code)}' in position {fault.position}"
    else s!"characters in position {fault.position}-{fault.position + fault.count - 1}"
  s!"'utf-8' codec can't encode {where_}: surrogates not allowed"

/-- The first code points of a text that have no bytes, where some surrogates stand for bytes
themselves. -/
def encodeFault? (isByte : Nat → Bool) (text : String) : Option EncodeFault :=
  let given := codes text.toList
  match given.dropWhile fun code => !isSurrogate code || isByte code with
  | [] => none
  | code :: behind => some {
      position := given.length - (behind.length + 1)
      code
      count := (behind.takeWhile isSurrogate).length + 1 }

/-- The bounds on the continuation bytes that a leading byte asks for, and the bits that it
contributes itself. -/
def utf8Lead? (byte : UInt8) : Option (List (UInt8 × UInt8) × Nat) :=
  let any : UInt8 × UInt8 := (0x80, 0xBF)
  if byte < 0x80 then some ([], byte.toNat)
  else if byte < 0xC2 then none
  else if byte < 0xE0 then some ([any], byte.toNat - 0xC0)
  else if byte = 0xE0 then some ([(0xA0, 0xBF), any], 0)
  else if byte = 0xED then some ([(0x80, 0x9F), any], 0xD)
  else if byte < 0xF0 then some ([any, any], byte.toNat - 0xE0)
  else if byte = 0xF0 then some ([(0x90, 0xBF), any, any], 0)
  else if byte < 0xF4 then some ([any, any, any], byte.toNat - 0xF0)
  else if byte = 0xF4 then some ([(0x80, 0x8F), any, any], 4)
  else none

/-- The code point whose leading bits are given, and the bytes behind it; or the number of valid
continuation bytes and the cause. -/
def utf8Rest : List (UInt8 × UInt8) → Nat → Nat → List UInt8 →
    Except (Nat × Utf8Cause) (Nat × List UInt8)
  | [], code, _, bytes => .ok (code, bytes)
  | _ :: _, _, valid, [] => .error (valid, .endOfData)
  | (low, high) :: bounds, code, valid, byte :: bytes =>
      if low ≤ byte ∧ byte ≤ high then
        utf8Rest bounds (code * 64 + (byte.toNat - 0x80)) (valid + 1) bytes
      else .error (valid, .continuationByte)

/-- The characters that bytes stand for, the first byte being at a position. Every character takes
a byte, so fuel for one character per byte is enough. -/
def readUtf8 : Nat → Nat → List UInt8 → Except Utf8Fault (List Char)
  | _, _, [] => .ok []
  | 0, position, byte :: _ => .error ⟨position, byte, 1, .startByte⟩
  | fuel + 1, position, byte :: bytes =>
      match utf8Lead? byte with
      | none => .error ⟨position, byte, 1, .startByte⟩
      | some (bounds, code) =>
          match utf8Rest bounds code 0 bytes with
          | .error (valid, cause) => .error ⟨position, byte, valid + 1, cause⟩
          | .ok (code, rest) =>
              (readUtf8 fuel (position + bounds.length + 1) rest).map (Char.ofNat code :: ·)

/-- A text in which every line ends with a line feed, and with nothing else. -/
def unifyNewlines : List Char → List Char
  | [] => []
  | '\r' :: '\n' :: rest => '\n' :: unifyNewlines rest
  | '\r' :: rest => '\n' :: unifyNewlines rest
  | c :: rest => c :: unifyNewlines rest

/-- The text that bytes stand for, its line ends unified. -/
def ofBytes (bytes : List UInt8) : Except Utf8Fault String :=
  (readUtf8 bytes.length 0 bytes).map fun chars => String.ofList (unifyNewlines chars)

end RouteAudit.Text
