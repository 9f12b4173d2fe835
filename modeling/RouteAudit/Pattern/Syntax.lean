import RouteAudit.Text.Blank
import RouteAudit.Text.CaseFolding
import RouteAudit.Text.Digit
import RouteAudit.Text.Word

/-!
# Patterns

Regular expressions as trees, and the characters that a character class holds.
-/

namespace RouteAudit

/-- Whether letters that differ only in case count as the same. -/
inductive CaseRule where
  | exact
  | ascii
  | unicode
  deriving DecidableEq, Repr

/-- The code points that count as the given one. -/
def CaseRule.mates : CaseRule → Nat → List Nat
  | exact, code => [code]
  | ascii, code => Text.asciiCaseMates code
  | unicode, code => Text.caseMates code

/-- The lower case of a code point, as far as case does not count. -/
def CaseRule.lower : CaseRule → Nat → Nat
  | exact, code => code
  | ascii, code => Text.asciiLowerCode code
  | unicode, code => Text.lowerCode code

/-- The named sets of characters. -/
inductive CharSet where
  | word
  | digit
  | space
  deriving DecidableEq, Repr

/-- Whether a code point is in a named set, or in the ASCII part of it. What is no character is in
none of them. -/
def CharSet.has (ascii : Bool) (code : Nat) (set : CharSet) : Bool :=
  let c := Char.ofNat code
  match set with
  | word => if ascii then Text.isAsciiWord c else Text.isWord c
  | digit => if ascii then c.isDigit else Text.isDigit c
  | space => if ascii then Text.isAsciiBlank c else Text.isBlank c

/-- A part of a character class. -/
inductive ClassItem where
  | range (first last : Nat)
  | named (negated : Bool) (set : CharSet)
  deriving DecidableEq, Repr

/-- A class of code points: those that one of its items holds, or all others. -/
structure CharClass where
  items : List ClassItem
  negated : Bool := false
  /-- Whether the named sets are cut down to ASCII. -/
  ascii : Bool := false
  letters : CaseRule := .exact
  deriving DecidableEq, Repr

/-- Whether a class holds a code point. -/
def CharClass.has (cls : CharClass) (code : Nat) : Bool :=
  let mates := cls.letters.mates code
  let found := cls.items.any fun
    | .range first last => mates.any fun mate => decide (first ≤ mate) && decide (mate ≤ last)
    | .named negated set => set.has cls.ascii code != negated
  found != cls.negated

/-- Conditions on a place between characters. -/
inductive Anchor where
  | textStart
  | lineStart
  | textEnd
  /-- The end of the text, or the place before a line feed that ends it. -/
  | lastLineEnd
  | lineEnd
  /-- Between a word character and another one. -/
  | wordEdge (ascii : Bool)
  /-- Not at a word edge, in a text that is not empty. -/
  | wordInner (ascii : Bool)
  deriving DecidableEq, Repr

/-- Which of the possible numbers of repetitions is tried first. -/
inductive Greed where
  | greedy
  | lazy
  /-- As many as there are, each in the first way that succeeds, and no others. -/
  | possessive
  deriving DecidableEq, Repr

/-- A regular expression. -/
inductive Pattern where
  | empty
  | char (cls : CharClass)
  | anchor (condition : Anchor)
  | seq (first second : Pattern)
  | choice (first second : Pattern)
  /-- A group whose text is remembered under a number. -/
  | group (index : Nat) (body : Pattern)
  /-- The text of a group once more. -/
  | again (index : Nat) (letters : CaseRule)
  /-- One of two patterns, by whether a group has a text. -/
  | ifGroup (index : Nat) (yes no : Pattern)
  /-- Repetitions, at least `least` and at most `most` of them, if there is a bound. -/
  | loop (greed : Greed) (least : Nat) (most : Option Nat) (body : Pattern)
  /-- The first way in which the body succeeds, and no other. -/
  | atomic (body : Pattern)
  /-- A condition on the text ahead, or on the `behind` characters before. -/
  | look (behind : Option Nat) (negated : Bool) (body : Pattern)
  deriving Repr

namespace Pattern

/-- The pattern for one code point. -/
def code (letters : CaseRule) (code : Nat) : Pattern :=
  .char { items := [.range code code], letters }

/-- The groups whose text matters for what the pattern matches. -/
def usedGroups : Pattern → List Nat
  | empty => []
  | char _ => []
  | anchor _ => []
  | seq first second => first.usedGroups ++ second.usedGroups
  | choice first second => first.usedGroups ++ second.usedGroups
  | group _ body => body.usedGroups
  | again index _ => [index]
  | ifGroup index yes no => index :: yes.usedGroups ++ no.usedGroups
  | loop _ _ _ body => body.usedGroups
  | atomic body => body.usedGroups
  | look _ _ body => body.usedGroups

/-- The pattern with only the given groups remembered. -/
def keepGroups (kept : List Nat) : Pattern → Pattern
  | empty => empty
  | char cls => char cls
  | anchor condition => anchor condition
  | seq first second => seq (first.keepGroups kept) (second.keepGroups kept)
  | choice first second => choice (first.keepGroups kept) (second.keepGroups kept)
  | group index body =>
      if kept.contains index then group index (body.keepGroups kept) else body.keepGroups kept
  | again index letters => again index letters
  | ifGroup index yes no => ifGroup index (yes.keepGroups kept) (no.keepGroups kept)
  | loop greed least most body => loop greed least most (body.keepGroups kept)
  | atomic body => atomic (body.keepGroups kept)
  | look behind negated body => look behind negated (body.keepGroups kept)

/-- Whether a pattern repeats anything. -/
def hasLoop : Pattern → Bool
  | empty => false
  | char _ => false
  | anchor _ => false
  | seq first second => first.hasLoop || second.hasLoop
  | choice first second => first.hasLoop || second.hasLoop
  | group _ body => body.hasLoop
  | again _ _ => false
  | ifGroup _ yes no => yes.hasLoop || no.hasLoop
  | loop _ _ _ _ => true
  | atomic body => body.hasLoop
  | look _ _ body => body.hasLoop

end Pattern

/-- A regular expression as it was written, as a tree, and with the number of its groups. -/
structure Regex where
  source : String
  pattern : Pattern
  groupCount : Nat

end RouteAudit
