import Mathlib.Data.List.Dedup
import Mathlib.Data.List.DropRight

/-!
# Orders of last touches

Keys are touched again and again. Put in the order of their last touches, each once, the key that is
touched next goes to the end. If only the last ones of them are kept, up to a bound, then keeping up
with the touches takes no more than the keys that are kept; and a key is among them exactly if fewer
keys than the bound have been touched behind it.
-/

namespace RouteAudit

variable {κ : Type} {key : κ}

/-- The last entries of a list up to a bound are the second one of two parts if it is not longer
than the bound, and as long if the first one is not empty. -/
theorem rtake_append_eq {older recent : List κ} {bound : Nat} (hbound : recent.length ≤ bound)
    (hfull : older = [] ∨ recent.length = bound) : (older ++ recent).rtake bound = recent := by
  unfold List.rtake
  rcases hfull with rfl | hfull
  · have hnone : recent.length - bound = 0 := by omega
    simp [hnone]
  · have hlength : (older ++ recent).length - bound = older.length := by
      rw [List.length_append]
      omega
    rw [hlength, List.drop_left]

/-- Of keys in the order of their last touches, the last ones are kept, up to a bound. -/
structure Kept (bound : Nat) (order kept : List κ) : Prop where
  /-- Others are in front of them only if the bound is reached. -/
  older : ∃ older, order = older ++ kept ∧ (older = [] ∨ kept.length = bound)
  length_le : kept.length ≤ bound

/-- What is kept are the last keys up to the bound. -/
theorem Kept.eq_rtake {bound : Nat} {order kept : List κ} (h : Kept bound order kept) :
    kept = order.rtake bound := by
  obtain ⟨⟨older, rfl, hfull⟩, hlength⟩ := h
  exact (rtake_append_eq hlength hfull).symm

/-- Of two parts of a list, the second one holds a key exactly if it is longer than what comes
behind the key. -/
theorem mem_right_iff {left right older behind : List κ} (hkey : key ∉ behind)
    (h : left ++ right = older ++ key :: behind) : key ∈ right ↔ behind.length < right.length := by
  rcases List.append_eq_append_iff.mp h with ⟨between, rfl, rfl⟩ | ⟨between, rfl, hbehind⟩
  · simp only [List.length_append, List.length_cons, List.mem_append, List.mem_cons, true_or,
      or_true, true_iff]
    omega
  · cases between with
    | nil =>
      rw [List.nil_append] at hbehind
      simp [← hbehind]
    | cons first between =>
      rw [List.cons_append, List.cons.injEq] at hbehind
      obtain ⟨rfl, rfl⟩ := hbehind
      have hright : key ∉ right := fun hmem => hkey (List.mem_append_right _ hmem)
      simp [hright]

/-- A key that is touched is touched last at some point. -/
theorem exists_last_touch {touches : List κ} (hkey : key ∈ touches) :
    ∃ before behind, touches = before ++ key :: behind ∧ key ∉ behind := by
  obtain ⟨before, behind, hreverse, hnew⟩ :=
    List.eq_append_cons_of_mem (List.mem_reverse.mpr hkey)
  refine ⟨behind.reverse, before.reverse, ?_, by simpa using hnew⟩
  rw [← List.reverse_reverse touches, hreverse]
  simp

variable [DecidableEq κ]

/-- All keys of a list are other than a key that is not in it. -/
theorem forall_ne_of_notMem {keys : List κ} (hkey : key ∉ keys) :
    ∀ other ∈ keys, decide (other ≠ key) = true := by
  intro other hother
  refine decide_eq_true ?_
  rintro rfl
  exact hkey hother

/-- What is touched behind the last touch of a key is found by going back to it. -/
theorem rtakeWhile_ne_eq {behind : List κ} (hkey : key ∉ behind) (before : List κ) :
    ((before ++ key :: behind).rtakeWhile fun other => decide (other ≠ key)) = behind := by
  have hreverse : key ∉ behind.reverse := fun hmem => hkey (List.mem_reverse.mp hmem)
  unfold List.rtakeWhile
  rw [List.reverse_append, List.reverse_cons, List.append_assoc,
    List.takeWhile_append_of_pos (forall_ne_of_notMem hreverse)]
  simp

/-- What is touched behind the last touch of a key comes behind it in the order of last touches. -/
theorem exists_dedup_eq {behind : List κ} (hkey : key ∉ behind) (before : List κ) :
    ∃ older, (before ++ key :: behind).dedup = older ++ key :: behind.dedup := by
  induction before with
  | nil => exact ⟨[], List.dedup_cons_of_notMem hkey⟩
  | cons first rest ih =>
    obtain ⟨older, holder⟩ := ih
    rw [List.cons_append]
    by_cases hfirst : first ∈ rest ++ key :: behind
    · exact ⟨older, (List.dedup_cons_of_mem hfirst).trans holder⟩
    · exact ⟨first :: older, (List.dedup_cons_of_notMem hfirst).trans (congrArg _ holder)⟩

/-- Keys in the order of their last touches, after one more touch: its key goes to the end. -/
def touchedAgain (keys : List κ) (key : κ) : List κ :=
  (keys.filter fun other => decide (other ≠ key)) ++ [key]

/-- One more touch changes the order of last touches. -/
theorem dedup_concat (touches : List κ) (key : κ) :
    (touches ++ [key]).dedup = touchedAgain touches.dedup key := by
  unfold touchedAgain
  induction touches with
  | nil => rfl
  | cons first rest ih =>
    rw [List.cons_append]
    by_cases hrest : first ∈ rest
    · have hagain : first ∈ rest ++ [key] := List.mem_append_left _ hrest
      rw [List.dedup_cons_of_mem hagain, List.dedup_cons_of_mem hrest, ih]
    · rw [List.dedup_cons_of_notMem hrest]
      by_cases hkey : first = key
      · subst hkey
        have hagain : first ∈ rest ++ [first] := List.mem_append_right _ (List.mem_singleton_self _)
        rw [List.dedup_cons_of_mem hagain, ih]
        simp
      · have hnew : first ∉ rest ++ [key] := by simp [hrest, hkey]
        rw [List.dedup_cons_of_notMem hnew, ih]
        simp [hkey]

/-- A key that is not there is only added. -/
theorem touchedAgain_of_notMem {keys : List κ} (hkey : key ∉ keys) :
    touchedAgain keys key = keys ++ [key] := by
  rw [touchedAgain, List.filter_eq_self.mpr (forall_ne_of_notMem hkey)]

/-- Touching a key that is there changes the order of the keys only. -/
theorem perm_touchedAgain {keys : List κ} (hnodup : keys.Nodup) (hkey : key ∈ keys) :
    (touchedAgain keys key).Perm keys := by
  obtain ⟨before, behind, rfl⟩ := List.append_of_mem hkey
  have hother := List.nodup_cons.mp (List.nodup_middle.mp hnodup)
  have hkept := touchedAgain_of_notMem hother.1
  have hfilter : touchedAgain (before ++ key :: behind) key = touchedAgain (before ++ behind) key := by
    simp [touchedAgain]
  rw [hfilter, hkept]
  exact (List.perm_append_singleton _ _).trans List.perm_middle.symm

namespace Kept

variable {bound : Nat} {order kept : List κ}

/-- A key that is kept goes to the end of what is kept. -/
theorem touch_mem (h : Kept bound order kept) (hnodup : order.Nodup) (hkey : key ∈ kept) :
    Kept bound (touchedAgain order key) (touchedAgain kept key) := by
  obtain ⟨⟨older, rfl, hfull⟩, hlength⟩ := h
  obtain ⟨-, hkept, hapart⟩ := List.nodup_append.mp hnodup
  have holder : key ∉ older := fun hmem => hapart key hmem key hkey rfl
  have hsame : (touchedAgain kept key).length = kept.length :=
    (perm_touchedAgain hkept hkey).length_eq
  constructor
  case older =>
    refine ⟨older, ?_, hsame ▸ hfull⟩
    have hnone := List.append_cancel_right (touchedAgain_of_notMem holder)
    rw [touchedAgain, touchedAgain, List.filter_append, hnone, List.append_assoc]
  case length_le => exact hsame ▸ hlength

/-- A key that is not kept takes the place of the first one that is, if the bound is reached. -/
theorem touch_of_full (h : Kept bound order kept) (hpos : 0 < bound) (hkey : key ∉ kept)
    (hfull : bound ≤ kept.length) :
    Kept bound (touchedAgain order key) (kept.drop 1 ++ [key]) := by
  obtain ⟨⟨older, rfl, -⟩, hlength⟩ := h
  have hnone := List.append_cancel_right (touchedAgain_of_notMem hkey)
  cases kept with
  | nil =>
    rw [List.length_nil] at hfull
    omega
  | cons first rest =>
    have hsame : (rest ++ [key]).length = bound := by
      rw [List.length_append, List.length_singleton, ← List.length_cons (a := first)]
      omega
    constructor
    case older =>
      refine ⟨(older.filter fun other => decide (other ≠ key)) ++ [first], ?_, .inr hsame⟩
      rw [touchedAgain, List.filter_append, hnone]
      simp
    case length_le => exact hsame.le

/-- A key that is not kept is added, if the bound is not reached. -/
theorem touch_of_room (h : Kept bound order kept) (hkey : key ∉ kept)
    (hroom : kept.length < bound) :
    Kept bound (touchedAgain order key) (kept ++ [key]) := by
  obtain ⟨⟨older, rfl, hfull⟩, -⟩ := h
  constructor
  case older =>
    have hall : older = [] := hfull.resolve_right (by omega)
    refine ⟨[], ?_, .inl rfl⟩
    rw [hall, List.nil_append, List.nil_append, touchedAgain_of_notMem hkey]
  case length_le =>
    rw [List.length_append, List.length_singleton]
    omega

/-- A key is kept exactly if it has been touched, and fewer keys than the bound have been touched
behind its last touch. -/
theorem mem_iff {touches : List κ} (h : Kept bound touches.dedup kept) :
    key ∈ kept ↔ key ∈ touches ∧
      (touches.rtakeWhile fun other => decide (other ≠ key)).dedup.length < bound := by
  obtain ⟨⟨older, horder, hfull⟩, hlength⟩ := h
  by_cases hkey : key ∈ touches
  · obtain ⟨before, behind, rfl, hnew⟩ := exists_last_touch hkey
    obtain ⟨front, hfront⟩ := exists_dedup_eq hnew before
    have hbehind : key ∉ behind.dedup := fun hmem => hnew (List.mem_dedup.mp hmem)
    have hmem := mem_right_iff hbehind (horder.symm.trans hfront)
    rw [rtakeWhile_ne_eq hnew, hmem]
    rcases hfull with rfl | hfull
    · have hlast : behind.dedup.length < kept.length := by
        rw [← hmem, ← List.nil_append kept, ← horder]
        exact List.mem_dedup.mpr hkey
      simp only [hkey, true_and]
      omega
    · simp [hfull]
  · have hnot : key ∉ kept := by
      intro hmem
      have hdedup : key ∈ touches.dedup := horder ▸ List.mem_append_right older hmem
      exact hkey (List.mem_dedup.mp hdedup)
    simp [hkey, hnot]

end Kept

end RouteAudit
