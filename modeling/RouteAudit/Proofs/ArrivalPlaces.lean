import Mathlib.Data.List.Nodup
import RouteAudit.Proofs.Refusals

/-!
# Places of arrivals

The arrivals of a run are told by their places: there is one at every place where the files register
a route whose path is not blank, and there are no others. So two entries of a run share their key
exactly if two such places do.
-/

namespace RouteAudit

namespace Routing

/-- Every registration in a file is an arrival, if its path is not blank. -/
theorem exists_mem_arrivalsOf (routing : Routing) (number done : Nat) (file : String)
    {index : Nat} {events : List Event} {registration : Registration}
    (hevent : events[index]? = some (.routeRegistered registration))
    (hpath : Text.allBlank registration.path = false) :
    ∃ arrival ∈ routing.arrivalsOf number done file events,
      arrival.place = (number, done + index) ∧ arrival.registration = registration := by
  induction events generalizing routing done index with
  | nil => cases hevent
  | cons event rest ih =>
    cases index with
    | zero =>
      obtain rfl := Option.some.inj hevent
      refine ⟨{ place := (number, done), file, routing, registration }, ?_, rfl, rfl⟩
      apply List.mem_append_left
      simp [arrival?, hpath]
    | succ index =>
      obtain ⟨arrival, hmem, hplace, hregistration⟩ := ih _ (done + 1) hevent
      refine ⟨arrival, List.mem_append_right _ hmem, ?_, hregistration⟩
      rw [hplace, Nat.add_assoc, Nat.add_comm 1]

/-- Every registration in files is an arrival, if its path is not blank. -/
theorem exists_mem_arrivals (routing : Routing) (done : Nat) {number index : Nat}
    {files : List SourceFile} {file : SourceFile} {registration : Registration}
    (hfile : files[number]? = some file)
    (hevent : file.events[index]? = some (.routeRegistered registration))
    (hpath : Text.allBlank registration.path = false) :
    ∃ arrival ∈ routing.arrivals done files,
      arrival.place = (done + number, index) ∧ arrival.registration = registration := by
  induction files generalizing routing done number with
  | nil => cases hfile
  | cons other rest ih =>
    cases number with
    | zero =>
      obtain rfl := Option.some.inj hfile
      obtain ⟨arrival, hmem, hplace, hregistration⟩ :=
        exists_mem_arrivalsOf (routing.beginFile other.path).state done 0 other.path hevent hpath
      refine ⟨arrival, List.mem_append_left _ hmem, ?_, hregistration⟩
      rw [hplace, Nat.zero_add, Nat.add_zero]
    | succ number =>
      obtain ⟨arrival, hmem, hplace, hregistration⟩ := ih _ (done + 1) hfile
      refine ⟨arrival, List.mem_append_right _ hmem, ?_, hregistration⟩
      rw [hplace, Nat.add_assoc, Nat.add_comm 1]

/-- No two arrivals in a file have the same place. -/
theorem nodup_place_arrivalsOf (routing : Routing) (number done : Nat) (file : String)
    (events : List Event) :
    ((routing.arrivalsOf number done file events).map Arrival.place).Nodup := by
  induction events generalizing routing done with
  | nil => exact List.nodup_nil
  | cons event rest ih =>
    rw [arrivalsOf, List.map_append, List.nodup_append]
    refine ⟨?_, ih _ _, ?_⟩
    · cases routing.arrival? (number, done) file event <;> simp
    · intro place hone other hothers hsame
      obtain ⟨first, hfirst, rfl⟩ := List.mem_map.mp hone
      obtain ⟨second, hsecond, rfl⟩ := List.mem_map.mp hothers
      obtain ⟨hplace, -⟩ := eq_of_arrival? (Option.mem_toList.mp hfirst)
      obtain ⟨index, hbehind, -⟩ := event_of_mem_arrivalsOf hsecond
      rw [hplace, hbehind, Prod.mk.injEq] at hsame
      omega

/-- No two arrivals in files have the same place. -/
theorem nodup_place_arrivals (routing : Routing) (done : Nat) (files : List SourceFile) :
    ((routing.arrivals done files).map Arrival.place).Nodup := by
  induction files generalizing routing done with
  | nil => exact List.nodup_nil
  | cons file rest ih =>
    rw [arrivals, List.map_append, List.nodup_append]
    refine ⟨nodup_place_arrivalsOf _ _ _ _ _, ih _ _, ?_⟩
    intro place hone other hothers hsame
    obtain ⟨first, hfirst, rfl⟩ := List.mem_map.mp hone
    obtain ⟨second, hsecond, rfl⟩ := List.mem_map.mp hothers
    obtain ⟨index, hplace, -⟩ := event_of_mem_arrivalsOf hfirst
    obtain ⟨number, place, -, hbehind, -⟩ := event_of_mem_arrivals hsecond
    rw [hplace, hbehind, Prod.mk.injEq] at hsame
    omega

end Routing

namespace Settings

variable (settings : Settings) (files : List SourceFile)

/-- **Arrivals.** There is an arrival with a registration at a place exactly if the files have the
registration there and its path is not blank. -/
theorem exists_arrival_iff (number index : Nat) (registration : Registration) :
    (∃ arrival ∈ settings.arrivals files,
        arrival.place = (number, index) ∧ arrival.registration = registration) ↔
      ∃ file, files[number]? = some file ∧
        file.events[index]? = some (.routeRegistered registration) ∧
        Text.allBlank registration.path = false := by
  constructor
  · rintro ⟨arrival, hmem, hplace, rfl⟩
    obtain ⟨place, event, file, hfound, hfile, hevent⟩ := Routing.event_of_mem_arrivals hmem
    rw [hplace, Nat.zero_add, Prod.mk.injEq] at hfound
    obtain ⟨rfl, rfl⟩ := hfound
    exact ⟨file, hfile, hevent⟩
  · rintro ⟨file, hfile, hevent, hpath⟩
    obtain ⟨arrival, hmem, hplace, hregistration⟩ :=
      Routing.exists_mem_arrivals { maxDepth := settings.maxDepth } 0 hfile hevent hpath
    rw [Nat.zero_add] at hplace
    exact ⟨arrival, hmem, hplace, hregistration⟩

/-- Arrivals at two places of the files share their key. -/
def Collides : Prop :=
  ∃ first ∈ settings.arrivals files, ∃ second ∈ settings.arrivals files,
    first.place ≠ second.place ∧ settings.keyOf first = settings.keyOf second

/-- Arrivals collide exactly if the keys of the entries are not all different. -/
theorem collides_iff_not_nodup :
    settings.Collides files ↔ ¬((settings.newEntries files).map Route.key).Nodup := by
  have hplaces := Routing.nodup_place_arrivals { maxDepth := settings.maxDepth } 0 files
  have harrivals : (settings.arrivals files).Nodup := hplaces.of_map
  have hplace := (List.nodup_map_iff_inj_on harrivals).mp hplaces
  have hkeys : (settings.newEntries files).map Route.key =
      (settings.arrivals files).map settings.keyOf := by
    rw [newEntries, settings.entries_eq_map_arrivals _ 0, List.map_map]
    rfl
  rw [hkeys, List.nodup_map_iff_inj_on harrivals]
  constructor
  · rintro ⟨first, hfirst, second, hsecond, hdistinct, hkey⟩ hinjective
    exact hdistinct (congrArg Arrival.place (hinjective first hfirst second hsecond hkey))
  · intro hcollide
    -- Different arrivals with one key stand at different places, as no place has two of them.
    by_contra hnone
    apply hcollide
    intro first hfirst second hsecond hkey
    apply hplace first hfirst second hsecond
    by_contra hdistinct
    exact hnone ⟨first, hfirst, second, hsecond, hdistinct, hkey⟩

end Settings

end RouteAudit
