/-!
# Code points that are no characters

A text that was written with escapes may hold half of a surrogate pair. That is a code point, but no
character. Where such a text is kept, the half is written as two characters, a mark and a stand-in,
and the mark itself is written twice. All other characters stand for themselves, so texts are
joined, split, told apart and ordered as they are kept.
-/

namespace RouteAudit.Text

/-- Whether a code point is half of a surrogate pair. -/
def isSurrogate (code : Nat) : Bool :=
  decide (0xD800 ≤ code) && decide (code < 0xE000)

/-- The mark in front of a stand-in: the code point before all surrogates, which stands for no
character. -/
def mark : Char := Char.ofNat 0xD7FF

/-- The distance between a surrogate and its stand-in, a character for private use. -/
def standInOffset : Nat := 0xF0000

/-- A code point as it is kept. -/
def ofCode (code : Nat) : List Char :=
  if isSurrogate code then [mark, Char.ofNat (standInOffset + code)]
  else if code = mark.toNat then [mark, mark]
  else [Char.ofNat code]

/-- The text of code points. -/
def ofCodes (codes : List Nat) : List Char :=
  codes.flatMap ofCode

/-- The code point that a character stands for behind the mark. -/
def marked? (c : Char) : Option Nat :=
  if c = mark then some mark.toNat
  else if isSurrogate (c.toNat - standInOffset) then some (c.toNat - standInOffset)
  else none

/-- The code points of a text. -/
def codes : List Char → List Nat
  | [] => []
  | [c] => [c.toNat]
  | c :: d :: rest =>
      match if c = mark then marked? d else none with
      | some code => code :: codes rest
      | none => c.toNat :: codes (d :: rest)

end RouteAudit.Text
