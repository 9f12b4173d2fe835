import Mathlib.Data.List.Nodup
import RouteAudit.Proofs.FirstRegistrations

/-!
# Newcomers and refused routes

The first routes under their keys and the others, told from a list of routes. The newcomers have all
keys of the list, each of them once, and how many routes are refused under a key does not depend on
the order of the list.
-/

namespace RouteAudit

namespace Route

/-- There is a first route under a key exactly if there is a route under it. -/
theorem isSome_earliest?_iff {routes : List Route} {key : String} :
    (earliest? routes key).isSome ↔ key ∈ routes.map Route.key := by
  simp [earliest?, List.find?_isSome]

/-- A newcomer has another key than the routes before it. -/
theorem key_ne_of_mem_newcomersAfter {before routes : List Route} {newcomer : Route}
    (h : newcomer ∈ newcomersAfter before routes) : newcomer.key ∉ before.map Route.key := by
  induction routes generalizing before with
  | nil => exact absurd h List.not_mem_nil
  | cons route rest ih =>
    have hlater : newcomer ∈ newcomersAfter (before ++ [route]) rest →
        newcomer.key ∉ before.map Route.key := by
      intro hmem hkey
      apply ih hmem
      rw [List.map_append]
      exact List.mem_append_left _ hkey
    unfold newcomersAfter at h
    split at h
    · exact hlater h
    · next hnone =>
      rcases List.mem_cons.mp h with rfl | hmem
      · intro hkey
        have hsome := isSome_earliest?_iff.mpr hkey
        rw [hnone] at hsome
        cases hsome
      · exact hlater hmem

/-- No two newcomers share their key. -/
theorem nodup_keys_newcomersAfter (before routes : List Route) :
    ((newcomersAfter before routes).map Route.key).Nodup := by
  induction routes generalizing before with
  | nil => exact List.nodup_nil
  | cons route rest ih =>
    unfold newcomersAfter
    split
    · exact ih _
    · rw [List.map_cons, List.nodup_cons]
      refine ⟨?_, ih _⟩
      intro hkey
      obtain ⟨newcomer, hmem, hsame⟩ := List.mem_map.mp hkey
      -- The route stands before the rest, so no newcomer of the rest has its key.
      apply key_ne_of_mem_newcomersAfter hmem
      rw [hsame, List.map_append]
      exact List.mem_append_right _ (List.mem_singleton_self _)

/-- The newcomers have the keys of all routes. -/
theorem mem_keys_newcomers_iff {routes : List Route} {key : String} :
    key ∈ (newcomers routes).map Route.key ↔ key ∈ routes.map Route.key := by
  rw [← isSome_earliest?_iff, ← isSome_earliest?_iff, earliest?_newcomers]

/-- The newcomers and the refused routes are all routes, in another order. -/
theorem perm_newcomersAfter_refusedAfter (before routes : List Route) :
    (newcomersAfter before routes ++ (refusedAfter before routes).map Prod.fst).Perm routes := by
  induction routes generalizing before with
  | nil => exact List.Perm.refl _
  | cons route rest ih =>
    have hrest := ih (before ++ [route])
    cases hfound : earliest? before route.key with
    | none =>
      simp only [newcomersAfter, refusedAfter, hfound, List.cons_append]
      exact hrest.cons route
    | some first =>
      simp only [newcomersAfter, refusedAfter, hfound, List.map_cons]
      exact List.perm_middle.trans (hrest.cons route)

/-- In another order of the routes, the newcomers have the same keys. -/
theorem perm_keys_newcomers {routes others : List Route} (h : routes.Perm others) :
    ((newcomers routes).map Route.key).Perm ((newcomers others).map Route.key) := by
  apply (List.perm_ext_iff_of_nodup (nodup_keys_newcomersAfter [] routes)
    (nodup_keys_newcomersAfter [] others)).mpr
  intro key
  exact mem_keys_newcomers_iff.trans
    ((h.map Route.key).mem_iff.trans mem_keys_newcomers_iff.symm)

/-- In another order of the routes, as many are refused under every key. -/
theorem perm_keys_refused {routes others : List Route} (h : routes.Perm others) :
    (((refused routes).map Prod.fst).map Route.key).Perm
      (((refused others).map Prod.fst).map Route.key) := by
  have hall : ∀ list : List Route,
      ((newcomers list).map Route.key ++ ((refused list).map Prod.fst).map Route.key).Perm
        (list.map Route.key) := by
    intro list
    rw [← List.map_append]
    exact (perm_newcomersAfter_refusedAfter [] list).map Route.key
  have hsame := ((hall routes).trans (h.map Route.key)).trans (hall others).symm
  exact (List.perm_append_left_iff _).mp
    (hsame.trans ((perm_keys_newcomers h).symm.append_right _))

/-- Nothing is refused exactly if no two routes share their key. -/
theorem refused_eq_nil_iff {routes : List Route} :
    refused routes = [] ↔ (routes.map Route.key).Nodup := by
  have hlength := length_newcomersAfter_add_refusedAfter [] routes
  have hperm := perm_newcomersAfter_refusedAfter [] routes
  have hnewcomers := nodup_keys_newcomersAfter [] routes
  change (newcomers routes).length + (refused routes).length = routes.length at hlength
  change (newcomers routes ++ (refused routes).map Prod.fst).Perm routes at hperm
  constructor
  · intro hnone
    rw [hnone, List.map_nil, List.append_nil] at hperm
    exact (hperm.map Route.key).nodup_iff.mp hnewcomers
  · intro hdistinct
    have hkeys : ((newcomers routes).map Route.key).Perm (routes.map Route.key) :=
      (List.perm_ext_iff_of_nodup hnewcomers hdistinct).mpr fun _ => mem_keys_newcomers_iff
    have hsame := hkeys.length_eq
    rw [List.length_map, List.length_map] at hsame
    have hzero : (refused routes).length = 0 := by omega
    exact List.eq_nil_of_length_eq_zero hzero

/-! ## Routes under known keys -/

/-- The first route under a key stays the first one with others behind it. -/
theorem earliest?_append_of_some {before : List Route} {key : String} {first : Route}
    (h : earliest? before key = some first) (more : List Route) :
    earliest? (before ++ more) key = some first := by
  unfold earliest? at h ⊢
  rw [List.find?_append, h, Option.some_or]

/-- A route is refused if there is one under its key before the list, and refused against this. -/
theorem mem_refusedAfter {before routes : List Route} {route first : Route}
    (hroute : route ∈ routes) (hfirst : earliest? before route.key = some first) :
    (route, first) ∈ refusedAfter before routes := by
  induction routes generalizing before with
  | nil => exact absurd hroute List.not_mem_nil
  | cons head rest ih =>
    unfold refusedAfter
    rcases List.mem_cons.mp hroute with rfl | hmem
    · rw [hfirst]
      exact List.mem_cons_self
    · have hrest := ih hmem (earliest?_append_of_some hfirst [head])
      split
      · exact List.mem_cons_of_mem _ hrest
      · exact hrest

/-- Of routes whose keys are all taken, none is a newcomer, and all are refused. -/
theorem newcomersAfter_of_known {before routes : List Route}
    (h : ∀ route ∈ routes, route.key ∈ before.map Route.key) :
    newcomersAfter before routes = [] ∧ (refusedAfter before routes).map Prod.fst = routes := by
  induction routes generalizing before with
  | nil => exact ⟨rfl, rfl⟩
  | cons head rest ih =>
    obtain ⟨hhead, hrest⟩ := List.forall_mem_cons.mp h
    obtain ⟨first, hfirst⟩ := Option.isSome_iff_exists.mp (isSome_earliest?_iff.mpr hhead)
    have hknown : ∀ route ∈ rest, route.key ∈ (before ++ [head]).map Route.key := by
      intro route hroute
      rw [List.map_append]
      exact List.mem_append_left _ (hrest route hroute)
    obtain ⟨hnone, hall⟩ := ih hknown
    simp only [newcomersAfter, refusedAfter, hfirst, List.map_cons, hnone, hall, and_self]

/-- A newcomer is the first route under its key. -/
theorem earliest?_of_mem_newcomers {routes : List Route} {newcomer : Route}
    (h : newcomer ∈ newcomers routes) : earliest? routes newcomer.key = some newcomer := by
  have hsome := isSome_earliest?_iff.mpr (List.mem_map_of_mem h)
  obtain ⟨first, hfirst⟩ := Option.isSome_iff_exists.mp hsome
  obtain ⟨hmem, hkey⟩ := mem_of_earliest? hfirst
  have hsame : first = newcomer :=
    List.inj_on_of_nodup_map (nodup_keys_newcomersAfter [] routes) hmem h hkey
  rw [← earliest?_newcomers, hfirst, hsame]

end Route

end RouteAudit
