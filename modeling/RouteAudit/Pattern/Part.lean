import RouteAudit.Pattern.Syntax

/-!
# Parts of patterns

Patterns with the numbers of characters they can match, and sequences of them.
-/

namespace RouteAudit.Pattern

/-- The numbers of characters that a pattern can match; without `most` there is no bound. -/
structure Width where
  least : Nat
  most : Option Nat
  deriving DecidableEq, Repr

namespace Width

/-- One pattern after another. -/
def add (a b : Width) : Width :=
  ⟨a.least + b.least, match a.most, b.most with | some m, some n => some (m + n) | _, _ => none⟩

/-- One pattern or another. -/
def either (a b : Width) : Width :=
  ⟨min a.least b.least, match a.most, b.most with | some m, some n => some (max m n) | _, _ => none⟩

/-- A pattern repeated between two bounds. -/
def times (a : Width) (least : Nat) (most : Option Nat) : Width :=
  ⟨a.least * least, match a.most, most with
    | some m, some n => some (m * n)
    | some m, none => if m = 0 then some 0 else none
    | none, some n => if n = 0 then some 0 else none
    | none, none => none⟩

/-- Whether the width is one number, and not too large a one. -/
def isFixed (a : Width) : Bool :=
  a.most == some a.least && decide (a.least < Nat.pow 2 32)

end Width

/-- A pattern and its width. -/
structure Part where
  pattern : Pattern
  width : Width

namespace Part

/-- The pattern that matches the empty text. -/
def nothing : Part := ⟨.empty, ⟨0, some 0⟩⟩

/-- A pattern for one character. -/
def single (pattern : Pattern) : Part := ⟨pattern, ⟨1, some 1⟩⟩

/-- A pattern for no character. -/
def mark (pattern : Pattern) : Part := ⟨pattern, ⟨0, some 0⟩⟩

/-- One after another. -/
def followedBy (a b : Part) : Part := ⟨.seq a.pattern b.pattern, a.width.add b.width⟩

end Part

/-- What decides whether a repetition may follow. -/
inductive ItemKind where
  | anchor
  | loop
  | other
  deriving DecidableEq

/-- A part of a sequence. -/
structure Item where
  kind : ItemKind
  part : Part

/-- The parts of a sequence, the last first, as one pattern. -/
def sequence (items : List Item) : Part :=
  items.foldl (fun after item =>
    match after with
    | none => some item.part
    | some later => some (item.part.followedBy later)) none |>.getD .nothing

end RouteAudit.Pattern
