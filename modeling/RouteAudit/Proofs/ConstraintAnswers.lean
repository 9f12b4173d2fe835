import RouteAudit.Proofs.LargeBounds
import RouteAudit.Proofs.PatternFaults
import RouteAudit.Proofs.SegmentGrammar
import RouteAudit.Segment.Constraint

/-!
# Answers about constraints

A fragment without a constraint has no regular expression, nor has one whose constraint is
malformed. But not every text that is refused counts as malformed: bounds on repetitions that are
too large and flags that exclude each other fail instead of answering that there is none, and so
does a text that there is no room for.
-/

namespace RouteAudit.Segment

variable {support : Pattern.Support} {segment : Segment} {inner : String}

/-- The regular expression of a constraint is what the text in its parentheses reads as. -/
theorem constraintPattern_of_constraint? (h : segment.constraint? = some ("(" ++ inner ++ ")")) :
    segment.constraintPattern support = match Pattern.read support inner with
      | .ok regex => .ok (some regex)
      | .error .malformed => .ok none
      | .error fault => .error fault := by
  obtain ⟨raw, shape⟩ := segment
  cases shape with
  | constrained name text =>
    obtain rfl : text = inner := by simpa [constraint?] using h
    rfl
  | literal | param | compound | wildcard => cases h

/-- A constraint fails if it is refused and not malformed. -/
theorem constraintPattern_eq_error_iff (h : segment.constraint? = some ("(" ++ inner ++ ")"))
    (fault : Pattern.Fault) :
    segment.constraintPattern support = .error fault ↔
      fault ≠ .malformed ∧ Pattern.read support inner = .error fault := by
  rw [constraintPattern_of_constraint? h]
  split
  · next found hread => simp [hread]
  · next hread =>
    rw [hread]
    exact ⟨nofun, fun ⟨hfault, heq⟩ => absurd (Except.error.inj heq).symm hfault⟩
  · next other hother hread =>
    rw [hread, Except.error.injEq, Except.error.injEq]
    refine ⟨fun heq => ⟨?_, heq⟩, And.right⟩
    subst heq
    exact hother

/-! ## Constraints that fail -/

section Failing

variable {name : String} {digits : List Char}

/-- A fragment with a bound on repetitions in its constraint. -/
def bounded (name : String) (digits : List Char) : String :=
  ":" ++ name ++ "(" ++ Pattern.bounded digits ++ ")"

/-- The bound stands in the constraint. -/
theorem constraint?_bounded (hname : IsName name) (hdigits : ∀ c ∈ digits, c.isDigit = true) :
    (parse (bounded name digits)).constraint? = some ("(" ++ Pattern.bounded digits ++ ")") := by
  have hlast : (bounded name digits).toList.getLast? = some ')' := by
    rw [bounded, String.toList_append]
    exact List.getLast?_concat
  have hunmarked : unmarked (bounded name digits) = bounded name digits := by
    simp [unmarked, isMarked, hlast]
  have hconstrains : Constrains (bounded name digits) name (Pattern.bounded digits) := by
    refine ⟨hname, ⟨?_, fun h => ?_⟩, .inl rfl⟩
    · intro h
      simpa [Pattern.bounded] using congrArg String.toList h
    · have hfeed : '\n' ∈ digits := by simpa [Pattern.bounded] using h
      exact absurd (hdigits _ hfeed) (by decide)
  have hgrammar : Grammar (bounded name digits) _ := .constrained (hunmarked ▸ hconstrains)
  exact congrArg Reading.constraint (reading_of_grammar hgrammar)

/-- A bound of too many digits fails, and is not taken for a malformed constraint. -/
theorem constraintPattern_bounded_of_many (hname : IsName name)
    (hdigits : ∀ c ∈ digits, c.isDigit = true) (hmany : Text.digitLimit < digits.length)
    (hroom : support.readingError? (Pattern.bounded digits) = none) :
    (parse (bounded name digits)).constraintPattern support =
      .error (.tooManyDigits digits.length) := by
  refine (constraintPattern_eq_error_iff (constraint?_bounded hname hdigits) _).mpr ⟨nofun, ?_⟩
  exact Pattern.read_of_many hdigits hmany hroom

end Failing

/-- A fragment with a character by its name in its constraint. -/
def named : String :=
  ":id(\\N\x7bCYRILLIC SMALL LETTER A\x7d)"

end RouteAudit.Segment
