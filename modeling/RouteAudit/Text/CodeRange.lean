/-!
# Sets of characters given by code ranges

Character classes are tables of inclusive ranges of code points. A table is searched from its
front; its ranges are disjoint and increase.
-/

namespace RouteAudit.Text

/-- A set of code points, as inclusive ranges in increasing order. -/
abbrev CodeRanges := List (Nat × Nat)

namespace CodeRanges

/-- Whether a code point lies in one of the ranges. -/
def hasCode (ranges : CodeRanges) (code : Nat) : Bool :=
  ranges.any fun range => decide (range.1 ≤ code) && decide (code ≤ range.2)

/-- Whether a character lies in one of the ranges. -/
def has (ranges : CodeRanges) (c : Char) : Bool :=
  ranges.hasCode c.toNat

end CodeRanges

end RouteAudit.Text
