import Mathlib.Data.List.Find
import RouteAudit.Proofs.FirstRegistrations

/-!
# Recurrences

An item of a list recurs if an earlier item has its key. The routes that a run refuses are the
recurrences among its entries. Which items recur, and after which ones, depends only on which items
share their keys: where keys are told apart by less, more items recur.
-/

namespace RouteAudit

section

variable {α β κ ι : Type} [DecidableEq κ] [DecidableEq ι]

/-- The items of a list whose keys the items before the list or earlier ones in it have, each with
the first item under its key. -/
def recurringAfter (key : α → κ) (before : List α) : List α → List (α × α)
  | [] => []
  | item :: rest =>
      match before.find? fun earlier => key earlier == key item with
      | some first => (item, first) :: recurringAfter key (before ++ [item]) rest
      | none => recurringAfter key (before ++ [item]) rest

/-- The items of a list whose keys earlier ones have, each with the first item under its key. -/
def recurring (key : α → κ) (items : List α) : List (α × α) :=
  recurringAfter key [] items

/-- An item that recurs shares its key with the one that it recurs after. -/
theorem key_eq_of_mem_recurringAfter {key : α → κ} {before items : List α} {item first : α}
    (h : (item, first) ∈ recurringAfter key before items) : key item = key first := by
  induction items generalizing before with
  | nil => exact absurd h List.not_mem_nil
  | cons next rest ih =>
    unfold recurringAfter at h
    split at h
    · next found hfound =>
      rcases List.mem_cons.mp h with hhead | hrest
      · obtain ⟨rfl, rfl⟩ := Prod.mk.inj hhead
        have hkey := List.find?_some hfound
        exact (beq_iff_eq.mp hkey).symm
      · exact ih hrest
    · exact ih h

/-- Every item is the first one under its key, or recurs after that one. -/
theorem eq_or_mem_recurringAfter (key : α → κ) (before : List α) {items : List α} {item : α}
    (hitem : item ∈ items) :
    ∃ first, (before ++ items).find? (fun earlier => key earlier == key item) = some first ∧
      (item = first ∨ (item, first) ∈ recurringAfter key before items) := by
  induction items generalizing before with
  | nil => exact absurd hitem List.not_mem_nil
  | cons next rest ih =>
    rcases List.mem_cons.mp hitem with rfl | hrest
    -- The head of the list comes right behind the items before it.
    · cases hfound : before.find? fun earlier => key earlier == key item with
      | none => exact ⟨item, by simp [List.find?_append, hfound], .inl rfl⟩
      | some first =>
        refine ⟨first, by simp [List.find?_append, hfound], .inr ?_⟩
        simp [recurringAfter, hfound]
    · obtain ⟨first, hfirst, hcases⟩ := ih (before ++ [next]) hrest
      refine ⟨first, by simpa using hfirst, hcases.imp_right ?_⟩
      intro hmem
      unfold recurringAfter
      split
      · exact List.mem_cons_of_mem _ hmem
      · exact hmem

/-- Items recur as what they are made into does. -/
theorem recurringAfter_map (f : α → β) (key : β → κ) (before items : List α) :
    recurringAfter key (before.map f) (items.map f) =
      (recurringAfter (key ∘ f) before items).map (Prod.map f f) := by
  induction items generalizing before with
  | nil => rfl
  | cons item rest ih =>
    have hrest := ih (before ++ [item])
    rw [List.map_append, List.map_singleton] at hrest
    have hfind : (before.map f).find? (fun earlier => key earlier == key (f item)) =
        (before.find? fun earlier => (key ∘ f) earlier == (key ∘ f) item).map f :=
      List.find?_map ..
    rw [List.map_cons, recurringAfter, recurringAfter, hfind, hrest]
    cases before.find? fun earlier => (key ∘ f) earlier == (key ∘ f) item with
    | none => rfl
    | some first => rfl

/-- Under keys that tell less apart, the items that recur still do. -/
theorem recurringAfter_sublist {key : α → κ} {coarse : α → ι} (before items : List α)
    (h : ∀ a ∈ before ++ items, ∀ b ∈ before ++ items, key a = key b → coarse a = coarse b) :
    ((recurringAfter key before items).map Prod.fst).Sublist
      ((recurringAfter coarse before items).map Prod.fst) := by
  induction items generalizing before with
  | nil => exact List.Sublist.refl _
  | cons item rest ih =>
    have hrest := ih (before ++ [item]) (by simpa using h)
    cases hother : before.find? fun earlier => coarse earlier == coarse item with
    | some other =>
      cases hfound : before.find? fun earlier => key earlier == key item with
      | some first =>
        simpa only [recurringAfter, hother, hfound, List.map_cons] using hrest.cons_cons item
      | none => simpa only [recurringAfter, hother, hfound, List.map_cons] using hrest.cons item
    | none =>
      -- No earlier item shares the coarse key, so none shares the finer one.
      have hnone : before.find? (fun earlier => key earlier == key item) = none := by
        apply List.find?_eq_none.mpr
        intro earlier hearlier hkey
        have hcoarse := h earlier (List.mem_append_left _ hearlier) item (by simp)
          (beq_iff_eq.mp hkey)
        exact List.find?_eq_none.mp hother earlier hearlier (beq_iff_eq.mpr hcoarse)
      simpa only [recurringAfter, hother, hnone] using hrest

/-- Keys that tell the same items apart find the same recurrences. -/
theorem recurringAfter_congr {key : α → κ} {other : α → ι} (before items : List α)
    (h : ∀ a ∈ before ++ items, ∀ b ∈ before ++ items, key a = key b ↔ other a = other b) :
    recurringAfter key before items = recurringAfter other before items := by
  induction items generalizing before with
  | nil => rfl
  | cons item rest ih =>
    have hrest := ih (before ++ [item]) (by simpa using h)
    have hfind : before.find? (fun earlier => key earlier == key item) =
        before.find? fun earlier => other earlier == other item := by
      apply List.find?_congr
      intro earlier hearlier
      have hsame := h earlier (List.mem_append_left _ hearlier) item (by simp)
      exact Bool.eq_iff_iff.mpr (by simpa only [beq_iff_eq] using hsame)
    rw [recurringAfter, recurringAfter, hfind, hrest]

/-- **Recurrences tell which keys are shared.** Two kinds of keys find the same recurrences exactly
if they tell the same items apart. -/
theorem recurring_eq_iff (key : α → κ) (other : α → ι) (items : List α) :
    recurring key items = recurring other items ↔
      ∀ a ∈ items, ∀ b ∈ items, key a = key b ↔ other a = other b := by
  constructor
  · intro hsame
    -- Both items are the first one under their key or recur after it, under the other key too.
    have hshared : ∀ {κ ι : Type} [DecidableEq κ] [DecidableEq ι] (key : α → κ) (other : α → ι),
        recurring key items = recurring other items →
          ∀ a ∈ items, ∀ b ∈ items, key a = key b → other a = other b := by
      intro κ ι _ _ key other hsame a ha b hb hkey
      obtain ⟨first, hfirst, hfrom⟩ := eq_or_mem_recurringAfter key [] ha
      obtain ⟨second, hsecond, hother⟩ := eq_or_mem_recurringAfter key [] hb
      rw [hkey, hsecond] at hfirst
      obtain rfl := Option.some.inj hfirst
      have hback : ∀ item, item = second ∨ (item, second) ∈ recurringAfter key [] items →
          other item = other second := by
        rintro item (rfl | hmem)
        · rfl
        · have hmoved : (item, second) ∈ recurring other items := hsame ▸ hmem
          exact key_eq_of_mem_recurringAfter hmoved
      rw [hback a hfrom, hback b hother]
    intro a ha b hb
    exact ⟨hshared key other hsame a ha b hb, hshared other key hsame.symm a ha b hb⟩
  · intro hsame
    exact recurringAfter_congr [] items (by simpa using hsame)

end

/-- The refused routes of a list are the ones that recur under their keys. -/
theorem Route.refusedAfter_eq_recurringAfter (before routes : List Route) :
    refusedAfter before routes = recurringAfter key before routes := by
  induction routes generalizing before with
  | nil => rfl
  | cons route rest ih =>
    have hfind : earliest? before route.key =
        before.find? fun earlier => key earlier == key route := rfl
    rw [refusedAfter, recurringAfter, ← hfind, ih]
    cases earliest? before route.key with
    | none => rfl
    | some first => rfl

end RouteAudit
