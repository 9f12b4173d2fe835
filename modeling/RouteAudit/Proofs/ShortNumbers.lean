import Mathlib.Data.List.Induction
import RouteAudit.Json.Shown
import RouteAudit.Text.Numeral

/-!
# Values without long numbers

A value can be shown if no whole number in it has more digits than are converted. This is said part
by part, and of what is put together from such parts.
-/

namespace RouteAudit

/-- A name with a value stands among named values, or it was put there. -/
theorem Named.mem_or_eq_of_mem_put {α : Type} {named : Named α} {name : String} {value : α}
    {entry : String × α} (h : entry ∈ named.put name value) :
    entry ∈ named ∨ entry = (name, value) := by
  induction named with
  | nil => exact .inr (List.mem_singleton.mp h)
  | cons first rest ih =>
    obtain ⟨key, old⟩ := first
    rw [put] at h
    split at h
    · next hkey =>
      subst hkey
      rcases List.mem_cons.mp h with hfirst | hrest
      · exact .inr hfirst
      · exact .inl (List.mem_cons_of_mem _ hrest)
    · rcases List.mem_cons.mp h with rfl | hrest
      · exact .inl List.mem_cons_self
      · rcases ih hrest with hold | hnew
        · exact .inl (List.mem_cons_of_mem _ hold)
        · exact .inr hnew

/-- Digits stand for less than the next power of ten. -/
theorem Text.decimalValue_lt_pow_length {digits : List Char}
    (h : ∀ c ∈ digits, isDecimalDigit c = true) :
    decimalValue digits < Nat.pow 10 digits.length := by
  induction digits using List.reverseRecOn with
  | nil => exact Nat.one_pos
  | append_singleton digits c ih =>
    have hdigits := ih fun d hd => h d (List.mem_append_left _ hd)
    have hlast : c ≤ '9' := by
      have hc := h c (List.mem_append_right _ (List.mem_singleton_self c))
      exact of_decide_eq_true (Bool.and_eq_true_iff.mp hc).2
    have hcode : c.toNat - '0'.toNat < 10 :=
      Nat.lt_of_le_of_lt (Nat.sub_le_sub_right (UInt32.le_iff_toNat_le.mp hlast) _) (by decide)
    have hvalue : decimalValue (digits ++ [c]) =
        10 * decimalValue digits + (c.toNat - '0'.toNat) := by
      rw [decimalValue, List.foldl_append]
      rfl
    have hpower : Nat.pow 10 (digits ++ [c]).length = Nat.pow 10 digits.length * 10 := by
      rw [List.length_append]
      rfl
    omega

/-- At most so many digits stand for less than this power of ten. -/
theorem Text.decimalValue_lt {digits : List Char} {limit : Nat}
    (h : ∀ c ∈ digits, isDecimalDigit c = true) (hlength : digits.length ≤ limit) :
    decimalValue digits < Nat.pow 10 limit :=
  Nat.lt_of_lt_of_le (decimalValue_lt_pow_length h) (Nat.pow_le_pow_right (by decide) hlength)

namespace Json

/-- No whole number in a value has more digits than are converted. -/
def IsShort (value : Json) : Prop :=
  value.hasLongNumber = false

/-- All items of a list are without such numbers. -/
def ItemsShort (items : List Json) : Prop :=
  ∀ item ∈ items, item.IsShort

/-- All fields of an object are without such numbers. -/
def FieldsShort (fields : Named Json) : Prop :=
  ∀ entry ∈ fields, entry.2.IsShort

/-- A list is without such numbers exactly if its items are. -/
theorem isShort_array_iff {items : List Json} : (array items).IsShort ↔ ItemsShort items := by
  rw [IsShort, hasLongNumber]
  induction items with
  | nil => simp [itemsHaveLongNumber, ItemsShort]
  | cons item rest ih =>
    rw [itemsHaveLongNumber, Bool.or_eq_false_iff, ih]
    exact (List.forall_mem_cons (p := IsShort)).symm

/-- An object is without such numbers exactly if its fields are. -/
theorem isShort_object_iff {fields : Named Json} :
    (object fields).IsShort ↔ FieldsShort fields := by
  rw [IsShort, hasLongNumber]
  induction fields with
  | nil => simp [fieldsHaveLongNumber, FieldsShort]
  | cons entry rest ih =>
    obtain ⟨name, value⟩ := entry
    rw [fieldsHaveLongNumber, Bool.or_eq_false_iff, ih]
    exact (List.forall_mem_cons (p := fun entry : String × Json => entry.2.IsShort)
      (a := (name, value))).symm

/-- A field that is given another value is without such numbers if this value is. -/
theorem FieldsShort.put {fields : Named Json} (h : FieldsShort fields) (name : String)
    {value : Json} (hvalue : value.IsShort) :
    FieldsShort (Named.put fields name value) := by
  intro entry hentry
  rcases Named.mem_or_eq_of_mem_put hentry with hold | rfl
  · exact h entry hold
  · exact hvalue

/-- A field of an object without such numbers has none. -/
theorem FieldsShort.of_lookup {fields : Named Json} {name : String} {value : Json}
    (h : FieldsShort fields) (hvalue : fields.lookup name = some value) : value.IsShort := by
  obtain ⟨before, behind, rfl, -⟩ := List.lookup_eq_some_iff.mp hvalue
  exact h (name, value) (List.mem_append_right _ List.mem_cons_self)

/-- As many digits as are converted stand for no such number, whatever the sign. -/
theorem isShort_int_of_digits {digits : List Char}
    (h : ∀ c ∈ digits, Text.isDecimalDigit c = true) (hlength : digits.length ≤ Text.digitLimit)
    (negative : Bool) :
    (int (if negative then -(Text.decimalValue digits : Int)
      else Text.decimalValue digits)).IsShort := by
  have hvalue := Nat.not_le_of_lt (Text.decimalValue_lt h hlength)
  rw [IsShort, hasLongNumber, isLongNumber, decide_eq_false_iff_not]
  cases negative with
  | false => exact hvalue
  | true =>
    rw [if_pos rfl, Int.natAbs_neg]
    exact hvalue

end Json

end RouteAudit
