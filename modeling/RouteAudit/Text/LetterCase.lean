
/-!
# Case mappings as runs

A case mapping is stored as runs of letters that are shifted alike.
-/

namespace RouteAudit.Text

/-- A run of code points whose case partners lie at one fixed distance: every `step`-th code
from `first` to `last`. -/
structure CaseRun where
  first : Nat
  last : Nat
  step : Nat
  distance : Int

namespace CaseRun

/-- Whether a code point belongs to the run. -/
def has (run : CaseRun) (code : Nat) : Bool :=
  decide (run.first ≤ code) && decide (code ≤ run.last) && (code - run.first) % run.step == 0

/-- The case partner of a code point of the run. -/
def target (run : CaseRun) (code : Nat) : Nat :=
  ((code : Int) + run.distance).toNat

/-- The code point of the run whose partner is the given one, if there is one. -/
def source? (run : CaseRun) (code : Nat) : Option Nat :=
  let before := (code : Int) - run.distance
  if decide (0 ≤ before) && run.has before.toNat then some before.toNat else none

end CaseRun

/-- The partner of a code point under a case mapping; codes outside all runs are their own. -/
def mapCase (runs : List CaseRun) (code : Nat) : Nat :=
  match runs.find? (·.has code) with
  | some run => run.target code
  | none => code


end RouteAudit.Text
