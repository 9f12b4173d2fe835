import RouteAudit.Decimal.Shortest

/-!
# Written numbers

How a double is written: its shortest digits, either with a decimal point or with an exponent.
-/

namespace RouteAudit.Decimal

/-- The choices in writing a number. -/
structure Layout where
  /-- The least exponent of the leading digit that is written with a decimal point. -/
  positionalFrom : Int
  /-- The first exponent of the leading digit that is written with an exponent. -/
  positionalBelow : Int
  /-- The least number of exponent digits. -/
  exponentWidth : Nat
  nan : String
  infinity : String

/-- Numbers between `0.0001` and `10 ^ 16` have a decimal point and at least one digit on each
side of it; all others have a signed exponent of at least two digits. -/
def Layout.standard : Layout := ⟨-4, 16, 2, "nan", "inf"⟩

/-- The written form of digits under a decimal point. -/
def positional (digits : List Char) (point : Int) : List Char :=
  if point ≤ 0 then '0' :: '.' :: List.replicate (-point).toNat '0' ++ digits
  else
    let whole := digits.take point.toNat
    let zeros := List.replicate (point.toNat - digits.length) '0'
    let rest := digits.drop point.toNat
    whole ++ zeros ++ '.' :: (if rest.isEmpty then ['0'] else rest)

/-- The written form of digits with an exponent. -/
def exponential (width : Nat) (digits : List Char) (exponent : Int) : List Char :=
  let power := Nat.toDigits 10 exponent.natAbs
  let sign := if exponent < 0 then '-' else '+'
  let tail := 'e' :: sign :: List.replicate (width - power.length) '0' ++ power
  match digits with
  | [] => tail
  | [d] => d :: tail
  | d :: more => d :: '.' :: more ++ tail

/-- A double in writing. -/
def Layout.write (layout : Layout) (x : Float) : String :=
  match Double.ofFloat x with
  | .nan => layout.nan
  | .infinite negative => (if negative then "-" else "") ++ layout.infinity
  | .finite negative mantissa exponent =>
      let found : Digits := if mantissa == 0 then ⟨0, 1⟩ else shortest mantissa exponent
      let digits := Nat.toDigits 10 found.digits
      let leading := found.point - 1
      let body :=
        if layout.positionalFrom ≤ leading ∧ leading < layout.positionalBelow then
          positional digits found.point
        else exponential layout.exponentWidth digits leading
      (if negative then "-" else "") ++ String.ofList body

/-- The double nearest to `digits * 10 ^ exponent`. -/
def readDouble (digits : Nat) (exponent : Int) : Float :=
  let leading := (Nat.toDigits 10 digits).length + exponent
  if digits == 0 || leading < -400 then 0.0
  else if 400 < leading then Float.ofBits 0x7FF0000000000000
  else Float.ofScientific digits (decide (exponent < 0)) exponent.natAbs

end RouteAudit.Decimal
