/-!
# Named values in order

Values by name that keep the order in which the names came. They are looked up like any list of
pairs.
-/

namespace RouteAudit

/-- Values by name, the name that came first at the front. -/
abbrev Named (α : Type) := List (String × α)

namespace Named

variable {α : Type}

/-- Gives a name a value: a name that is there keeps its place, a new one goes to the end. -/
def put (named : Named α) (name : String) (value : α) : Named α :=
  match named with
  | [] => [(name, value)]
  | (key, old) :: rest =>
      if key = name then (key, value) :: rest else (key, old) :: put rest name value

/-- A name has the value that it was given last. -/
@[simp] theorem lookup_put_self (named : Named α) (name : String) (value : α) :
    (named.put name value).lookup name = some value := by
  induction named with
  | nil => simp [put]
  | cons entry rest ih =>
      obtain ⟨key, old⟩ := entry
      by_cases h : key = name
      · simp [put, h]
      · have hne : (name == key) = false := by simp [Ne.symm h]
        simpa [put, h, List.lookup_cons, hne] using ih

/-- Giving one name a value changes no other name's value. -/
theorem lookup_put_of_ne (named : Named α) {name other : String} (value : α) (h : other ≠ name) :
    (named.put name value).lookup other = named.lookup other := by
  induction named with
  | nil =>
      have hne : (other == name) = false := by simp [h]
      simp [put, List.lookup_cons, hne]
  | cons entry rest ih =>
      obtain ⟨key, old⟩ := entry
      by_cases hk : key = name
      · subst hk
        have hne : (other == key) = false := by simp [h]
        simp [put, List.lookup_cons, hne]
      · simp only [put, if_neg hk, List.lookup_cons] at ih ⊢
        cases other == key <;> simp [ih]

end Named

end RouteAudit
