import RouteAudit.Text.Blank
import RouteAudit.Text.Digit

/-!
# Whole numbers in writing

How a whole number may be spelled: blank space around it, a sign, leading zeros, digits of any
script, and single underscores between digits.
-/

namespace RouteAudit.Text

/-- The most digits of a whole number that are converted. -/
def digitLimit : Nat := 4300

/-- Blank characters that may stand around a number: all but the four separators of ASCII. -/
def isNumberBlank (c : Char) : Bool :=
  isBlank c && !(0x1C ≤ c.toNat && c.toNat ≤ 0x1F)

/-- The digits of a number with single underscores between them, one digit having been read. -/
def digitsAfterDigit? : List Char → Option (List Nat)
  | [] => some []
  | '_' :: c :: rest =>
      match digitValue? c with
      | some d => (digitsAfterDigit? rest).map (d :: ·)
      | none => none
  | c :: rest =>
      match digitValue? c with
      | some d => (digitsAfterDigit? rest).map (d :: ·)
      | none => none

/-- The value of a number without its sign. -/
def readNatural? : List Char → Option Nat
  | [] => none
  | c :: rest => do
      let digits := (← digitValue? c) :: (← digitsAfterDigit? rest)
      if digitLimit < digits.length then none
      else some (digits.foldl (fun n d => 10 * n + d) 0)

/-- The whole number that a text spells. -/
def readInteger? (text : String) : Option Int :=
  let chars := ((text.toList.dropWhile isNumberBlank).reverse.dropWhile isNumberBlank).reverse
  match chars with
  | '-' :: rest => (readNatural? rest).map fun n => -(n : Int)
  | '+' :: rest => (readNatural? rest).map fun n => (n : Int)
  | rest => (readNatural? rest).map fun n => (n : Int)

end RouteAudit.Text
