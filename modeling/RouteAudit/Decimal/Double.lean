/-!
# Binary floating-point numbers, taken apart

A finite double is a whole number times a power of two.
-/

namespace RouteAudit.Decimal

/-- A double as what it stands for. -/
inductive Double where
  | nan
  | infinite (negative : Bool)
  /-- The number `mantissa * 2 ^ exponent`, up to its sign. -/
  | finite (negative : Bool) (mantissa : Nat) (exponent : Int)

/-- Reads the sign bit, the eleven exponent bits and the fifty-two fraction bits. -/
def Double.ofFloat (x : Float) : Double :=
  let bits : Nat := x.toBits.toNat
  let negative := bits / Nat.pow 2 63 == 1
  let scale : Nat := bits / Nat.pow 2 52 % Nat.pow 2 11
  let fraction : Nat := bits % Nat.pow 2 52
  if x.isNaN then .nan
  else if scale == 2047 then .infinite negative
  else if scale == 0 then .finite negative fraction (-1074)
  else .finite negative (Nat.pow 2 52 + fraction) ((scale : Int) - 1075)

end RouteAudit.Decimal
