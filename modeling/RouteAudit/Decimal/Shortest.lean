import RouteAudit.Decimal.Double

/-!
# Shortest decimal digits

The fewest decimal digits that determine a double among all doubles, found by exact arithmetic on
whole numbers: a decimal determines the double if it lies in the interval of reals that round to
it.
-/

namespace RouteAudit.Decimal

/-- A positive decimal `0.d₁d₂… * 10 ^ point`, with the digits as one whole number. -/
structure Digits where
  digits : Nat
  point : Int

/-- A fraction of whole numbers. -/
structure Ratio where
  numerator : Nat
  denominator : Nat

namespace Ratio

/-- The fraction `number * 2 ^ power`. -/
def scaled (number : Nat) (power : Int) : Ratio :=
  if 0 ≤ power then ⟨number * Nat.pow 2 power.toNat, 1⟩
  else ⟨number, Nat.pow 2 (-power).toNat⟩

/-- The fraction times a power of ten. -/
def shift (r : Ratio) (power : Int) : Ratio :=
  if 0 ≤ power then ⟨r.numerator * Nat.pow 10 power.toNat, r.denominator⟩
  else ⟨r.numerator, r.denominator * Nat.pow 10 (-power).toNat⟩

/-- Whether one fraction is at most another. -/
def le (r s : Ratio) : Bool :=
  decide (r.numerator * s.denominator ≤ s.numerator * r.denominator)

/-- Whether one fraction is below another. -/
def lt (r s : Ratio) : Bool :=
  decide (r.numerator * s.denominator < s.numerator * r.denominator)

/-- The whole part. -/
def floor (r : Ratio) : Nat :=
  r.numerator / r.denominator

end Ratio

/-- The decimal point of a positive fraction: the least `p` with `r < 10 ^ p`, at least `-400`. -/
def decimalPoint (r : Ratio) : Int :=
  if r.denominator ≤ r.numerator then (Nat.toDigits 10 r.floor).length
  else match (List.range 400).find? fun (k : Nat) => !(r.shift (k + 1)).lt ⟨1, 1⟩ with
    | some zeros => -(zeros : Int)
    | none => -400

/-- The interval of reals that round to a double, and whether its ends belong to it. -/
structure Basin where
  lower : Ratio
  middle : Ratio
  upper : Ratio
  closed : Bool

/-- The interval around `mantissa * 2 ^ exponent`; below a power of two it is half as wide. -/
def Basin.around (mantissa : Nat) (exponent : Int) : Basin :=
  let below := if mantissa == Nat.pow 2 52 && exponent != -1074 then 1 else 2
  { lower := .scaled (4 * mantissa - below) (exponent - 2)
    middle := .scaled (4 * mantissa) (exponent - 2)
    upper := .scaled (4 * mantissa + 2) (exponent - 2)
    closed := mantissa % 2 == 0 }

/-- Whether a fraction rounds to the double. -/
def Basin.has (basin : Basin) (r : Ratio) : Bool :=
  if basin.closed then basin.lower.le r && r.le basin.upper
  else basin.lower.lt r && r.lt basin.upper

/-- The better of the two decimals of `count` digits beside a number, if one rounds to it: the
nearer, and in a tie the even one. -/
def Basin.nearby? (basin : Basin) (point : Int) (count : Nat) : Option Digits :=
  let down := (basin.middle.shift (count - point)).floor
  let onGrid (digits : Nat) : Ratio := Ratio.shift ⟨digits, 1⟩ (point - count)
  let half : Ratio := Ratio.shift ⟨2 * down + 1, 2⟩ (point - count)
  let up := basin.middle.lt half == false && (half.lt basin.middle || down % 2 == 1)
  let preferred := if up then down + 1 else down
  let other := if up then down else down + 1
  if basin.has (onGrid preferred) then some ⟨preferred, point⟩
  else if basin.has (onGrid other) then some ⟨other, point⟩
  else none

/-- A whole number without its trailing zeros. -/
def dropZeros : Nat → Nat → Nat
  | 0, n => n
  | fuel + 1, n => if n % 10 == 0 && n != 0 then dropZeros fuel (n / 10) else n

/-- The fewest digits that round to `mantissa * 2 ^ exponent`; seventeen always do. -/
def shortest (mantissa : Nat) (exponent : Int) : Digits :=
  let basin := Basin.around mantissa exponent
  let point := decimalPoint basin.middle
  match (List.range 17).findSome? fun n => (basin.nearby? point (n + 1)).map (n + 1, ·) with
  | some (count, found) =>
      let grown := (Nat.toDigits 10 found.digits).length - count
      ⟨dropZeros 20 found.digits, point + grown⟩
  | none => ⟨0, 0⟩

end RouteAudit.Decimal
