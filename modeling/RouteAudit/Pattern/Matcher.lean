import RouteAudit.Pattern.Syntax
import RouteAudit.Text.CodePoint

/-!
# Matching

All the ways in which a pattern can match from a place of a text on, in the order in which a
backtracking search would come upon them, each way once.
-/

namespace RouteAudit

namespace Anchor

/-- The code point of a line feed. -/
def lineFeed : Nat := '\n'.toNat

/-- Whether there is a word character at a place. -/
def wordAt (ascii : Bool) (text : Array Nat) (position : Nat) : Bool :=
  (text[position]?).any (CharSet.word.has ascii ·)

/-- Whether a place lies between a word character and another one. -/
def isWordEdge (ascii : Bool) (text : Array Nat) (position : Nat) : Bool :=
  (decide (0 < position) && wordAt ascii text (position - 1)) != wordAt ascii text position

/-- Whether a condition holds at a place. -/
def holds (text : Array Nat) (position : Nat) : Anchor → Bool
  | .textStart => position == 0
  | .lineStart => position == 0 || text[position - 1]? == some lineFeed
  | .textEnd => position == text.size
  | .lastLineEnd =>
      position == text.size || (position + 1 == text.size && text[position]? == some lineFeed)
  | .lineEnd => position == text.size || text[position]? == some lineFeed
  | .wordEdge ascii => isWordEdge ascii text position
  | .wordInner ascii => !text.isEmpty && !isWordEdge ascii text position

end Anchor

namespace Pattern

/-- How far a match has come: the place reached, and the texts of the groups as pairs of places. -/
structure Spot where
  position : Nat
  groups : List (Option (Nat × Nat))
  deriving DecidableEq

/-- The places reached, each once, in the order of their first occurrence. -/
def distinct (spots : List Spot) : List Spot :=
  spots.eraseDups

/-- Whether the stretch of text from `start` on repeats at `position`, `count` code points
long. -/
def repeats (letters : CaseRule) (text : Array Nat) (start position : Nat) : Nat → Bool
  | 0 => true
  | count + 1 =>
      match text[start]?, text[position]? with
      | some c, some d =>
          letters.lower c == letters.lower d &&
            repeats letters text (start + 1) (position + 1) count
      | _, _ => false

/-- The spots after exactly `count` repetitions. -/
def requiredLoops (step : Spot → List Spot) : Nat → List Spot → List Spot
  | 0, spots => spots
  | count + 1, spots =>
      let next := distinct (spots.flatMap step)
      if next = spots then spots else requiredLoops step count next

/-- A walk through repetitions: the spots walked from, with the number of repetitions left there,
and the spots found, the latest first. -/
structure Walk where
  seen : List (Spot × Option Nat)
  found : List Spot

/-- Adds a spot to those found. -/
def Walk.add (walk : Walk) (spot : Spot) : Walk :=
  { walk with found := spot :: walk.found }

/-- Repeats from a spot on, at most `left` times. A repetition that does not advance ends the
walk, so fuel for one repetition per character is enough. -/
def optionalLoops (step : Spot → List Spot) (lazy : Bool) :
    Nat → Option Nat → Spot → Walk → Walk
  | 0, _, spot, walk => walk.add spot
  | fuel + 1, left, spot, walk =>
      if walk.seen.contains (spot, left) then walk
      else
        let walk := { walk with seen := (spot, left) :: walk.seen }
        let walk := if lazy then walk.add spot else walk
        let walk :=
          if left = some 0 then walk
          else (step spot).foldl (fun walk next =>
            if next.position = spot.position then walk.add next
            else optionalLoops step lazy fuel (left.map (· - 1)) next walk) walk
        if lazy then walk else walk.add spot

/-- Repeats as long as a repetition succeeds and advances, each time in the first way. -/
def possessiveLoops (step : Spot → List Spot) : Nat → Option Nat → Spot → Spot
  | 0, _, spot => spot
  | fuel + 1, left, spot =>
      if left = some 0 then spot
      else match (step spot).head? with
        | some next =>
            if next.position = spot.position then next
            else possessiveLoops step fuel (left.map (· - 1)) next
        | none => spot

/-- The spot after exactly `count` repetitions, each in the first way. -/
def firstLoops (step : Spot → List Spot) : Nat → Spot → Option Spot
  | 0, spot => some spot
  | count + 1, spot =>
      match (step spot).head? with
      | some next => if next = spot then some spot else firstLoops step count next
      | none => none

/-- The spots after a number of repetitions between two bounds. -/
def loopEnds (step : Spot → List Spot) (size : Nat) (greed : Greed) (least : Nat)
    (most : Option Nat) (spot : Spot) : List Spot :=
  let left := most.map (· - least)
  match greed with
  | .possessive =>
      ((firstLoops step least spot).map fun start =>
        possessiveLoops step (size - start.position + 1) left start).toList
  | _ =>
      let walk := (requiredLoops step least [spot]).foldl (fun walk start =>
        optionalLoops step (greed == .lazy) (size - start.position + 1) left start walk) ⟨[], []⟩
      distinct walk.found.reverse

/-- The spots at which a pattern can end when it begins at a spot, in order of preference. -/
def ends (text : Array Nat) : Pattern → Spot → List Spot
  | empty, spot => [spot]
  | char cls, spot =>
      match text[spot.position]? with
      | some c => if cls.has c then [{ spot with position := spot.position + 1 }] else []
      | none => []
  | anchor condition, spot => if condition.holds text spot.position then [spot] else []
  | seq first second, spot => distinct ((first.ends text spot).flatMap (second.ends text))
  | choice first second, spot => distinct (first.ends text spot ++ second.ends text spot)
  | group index body, spot =>
      (body.ends text spot).map fun reached =>
        { reached with groups := reached.groups.set index (some (spot.position, reached.position)) }
  | again index letters, spot =>
      match spot.groups[index]?.join with
      | some (start, stop) =>
          if repeats letters text start spot.position (stop - start) then
            [{ spot with position := spot.position + (stop - start) }]
          else []
      | none => []
  | ifGroup index yes no, spot =>
      if (spot.groups[index]?.join).isSome then yes.ends text spot else no.ends text spot
  | loop greed least most body, spot =>
      loopEnds (body.ends text) text.size greed least most spot
  | atomic body, spot => (body.ends text spot).head?.toList
  | look behind negated body, spot =>
      let reached :=
        if spot.position < behind.getD 0 then none
        else (body.ends text { spot with position := spot.position - behind.getD 0 }).head?
      match reached, negated with
      | some inner, false => [{ spot with groups := inner.groups }]
      | none, true => [spot]
      | _, _ => []

end Pattern

/-- Whether a regular expression matches a text from end to end. -/
def Regex.matchesWhole (regex : Regex) (text : String) : Bool :=
  let codes := (Text.codes text.toList).toArray
  let pattern := regex.pattern.keepGroups regex.pattern.usedGroups
  (pattern.ends codes ⟨0, List.replicate (regex.groupCount + 1) none⟩).any
    (·.position == codes.size)

end RouteAudit
