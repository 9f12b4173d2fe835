import RouteAudit.Conflict

/-!
# The first clash of aligned segments

Two lists of segments are walked side by side, and the walk ends at the first pair that clashes. So
it finds a pair exactly if some pair clashes at all, and no earlier pair clashes.
-/

namespace RouteAudit

namespace Segment

/-- Two lists have segments at a place, one each. -/
structure PairAt (lefts rights : List Segment) (place : Nat) (left right : Segment) : Prop where
  left : lefts[place]? = some left
  right : rights[place]? = some right

/-- No pair of aligned segments is as asked for. -/
def NoneAt (asked : Segment → Segment → Prop) (lefts rights : List Segment) : Prop :=
  ∀ place left right, PairAt lefts rights place left right → ¬asked left right

/-- A pair of aligned segments is as asked for, and no earlier pair is. -/
structure FirstAt (asked : Segment → Segment → Prop) (lefts rights : List Segment) (place : Nat)
    (left right : Segment) : Prop where
  pair : PairAt lefts rights place left right
  found : asked left right
  before : ∀ earlier < place, ∀ a b, PairAt lefts rights earlier a b → ¬asked a b

variable {asked other : Segment → Segment → Prop} {left right a b : Segment}
  {lefts rights : List Segment} {place : Nat}

/-- The first pair is that of the heads. -/
theorem pairAt_cons_zero_iff :
    PairAt (left :: lefts) (right :: rights) 0 a b ↔ a = left ∧ b = right := by
  constructor
  · rintro ⟨hleft, hright⟩
    cases hleft
    cases hright
    exact ⟨rfl, rfl⟩
  · rintro ⟨rfl, rfl⟩
    exact ⟨rfl, rfl⟩

/-- The later pairs are those of the tails. -/
theorem pairAt_cons_succ_iff :
    PairAt (left :: lefts) (right :: rights) (place + 1) a b ↔ PairAt lefts rights place a b :=
  ⟨fun h => ⟨h.left, h.right⟩, fun h => ⟨h.left, h.right⟩⟩

/-- Where the heads are not as asked for and no pair of the tails is, no pair is. -/
theorem NoneAt.cons (hheads : ¬asked left right) (h : NoneAt asked lefts rights) :
    NoneAt asked (left :: lefts) (right :: rights) := by
  intro place a b hpair
  cases place with
  | zero =>
    obtain ⟨rfl, rfl⟩ := pairAt_cons_zero_iff.mp hpair
    exact hheads
  | succ place => exact h place a b (pairAt_cons_succ_iff.mp hpair)

/-- Heads that are as asked for are the first such pair. -/
theorem firstAt_heads (hheads : asked left right) :
    FirstAt asked (left :: lefts) (right :: rights) 0 left right where
  pair := pairAt_cons_zero_iff.mpr ⟨rfl, rfl⟩
  found := hheads
  before := fun _ hearlier => absurd hearlier (Nat.not_lt_zero _)

/-- Where the heads are not as asked for, the first pair of the tails that is comes one place later.
-/
theorem FirstAt.cons (hheads : ¬asked left right) (h : FirstAt asked lefts rights place a b) :
    FirstAt asked (left :: lefts) (right :: rights) (place + 1) a b where
  pair := pairAt_cons_succ_iff.mpr h.pair
  found := h.found
  before := by
    intro earlier hearlier c d hpair
    cases earlier with
    | zero =>
      obtain ⟨rfl, rfl⟩ := pairAt_cons_zero_iff.mp hpair
      exact hheads
    | succ earlier =>
      exact h.before earlier (Nat.lt_of_succ_lt_succ hearlier) c d (pairAt_cons_succ_iff.mp hpair)

/-- That no pair is as asked for stays true if what is asked of the pairs is put otherwise. -/
theorem NoneAt.congr (h : NoneAt asked lefts rights)
    (hiff : ∀ place a b, PairAt lefts rights place a b → (asked a b ↔ other a b)) :
    NoneAt other lefts rights := by
  intro place a b hpair hother
  exact h place a b hpair ((hiff place a b hpair).mpr hother)

/-- The first pair that is as asked for stays so if what is asked of the pairs is put otherwise. -/
theorem FirstAt.congr (h : FirstAt asked lefts rights place left right)
    (hiff : ∀ place a b, PairAt lefts rights place a b → (asked a b ↔ other a b)) :
    FirstAt other lefts rights place left right where
  pair := h.pair
  found := (hiff place left right h.pair).mp h.found
  before := by
    intro earlier hearlier a b hpair hother
    exact h.before earlier hearlier a b hpair ((hiff earlier a b hpair).mpr hother)

/-- At a place there is one pair at most. -/
theorem PairAt.unique (h : PairAt lefts rights place left right)
    (hother : PairAt lefts rights place a b) : left = a ∧ right = b :=
  ⟨Option.some.inj (h.left.symm.trans hother.left),
    Option.some.inj (h.right.symm.trans hother.right)⟩

/-- There is one first pair at most. -/
theorem FirstAt.unique {elsewhere : Nat} (h : FirstAt asked lefts rights place left right)
    (hother : FirstAt asked lefts rights elsewhere a b) : left = a ∧ right = b := by
  rcases Nat.lt_trichotomy place elsewhere with hlt | rfl | hlt
  · exact absurd h.found (hother.before place hlt left right h.pair)
  · exact h.pair.unique hother.pair
  · exact absurd hother.found (h.before elsewhere hlt a b hother.pair)

/-- If some pair is as asked for, there is a first one. -/
theorem exists_firstAt (hpair : PairAt lefts rights place left right) (h : asked left right) :
    ∃ first a b, FirstAt asked lefts rights first a b := by
  induction place using Nat.strongRecOn generalizing left right with
  | ind place ih =>
    by_cases hearlier : ∃ earlier < place, ∃ a b, PairAt lefts rights earlier a b ∧ asked a b
    · obtain ⟨earlier, hlt, a, b, hbefore, hasked⟩ := hearlier
      exact ih earlier hlt hbefore hasked
    · exact ⟨place, left, right, hpair, h, fun earlier hlt a b hbefore hasked =>
        hearlier ⟨earlier, hlt, a, b, hbefore, hasked⟩⟩

/-- Aligned segments clash. -/
def Clashes (left right : Segment) : Prop :=
  Clash.of? left right ≠ none

end Segment

open Segment (NoneAt FirstAt Clashes firstAt_heads)

/-- The walk along two lists of segments finds no clash because there is none, or it ends at the
first pair that clashes. -/
theorem firstClash?_cases (lefts rights : List Segment) :
    (firstClash? lefts rights = none ∧ NoneAt Clashes lefts rights) ∨
      ∃ kind place a b, firstClash? lefts rights = some (kind, a, b) ∧
        Clash.of? a b = some kind ∧ FirstAt Clashes lefts rights place a b := by
  induction lefts generalizing rights with
  | nil => exact .inl ⟨rfl, fun _ _ _ hpair => by cases hpair.left⟩
  | cons left lefts ih =>
    cases rights with
    | nil => exact .inl ⟨rfl, fun _ _ _ hpair => by cases hpair.right⟩
    | cons right rights =>
      cases hclash : Clash.of? left right with
      | some kind =>
        have hheads : Clashes left right := by simp [Clashes, hclash]
        exact .inr ⟨kind, 0, left, right, by simp [firstClash?, hclash], hclash,
          firstAt_heads hheads⟩
      | none =>
        -- The walk goes on behind the heads, and so do the places.
        have hheads : ¬Clashes left right := not_not_intro hclash
        have hwalk : firstClash? (left :: lefts) (right :: rights) = firstClash? lefts rights := by
          simp [firstClash?, hclash]
        rw [hwalk]
        rcases ih rights with ⟨hnone, hnowhere⟩ | ⟨kind, place, a, b, hfound, hkind, hfirst⟩
        · exact .inl ⟨hnone, hnowhere.cons hheads⟩
        · exact .inr ⟨kind, place + 1, a, b, hfound, hkind, hfirst.cons hheads⟩

end RouteAudit
