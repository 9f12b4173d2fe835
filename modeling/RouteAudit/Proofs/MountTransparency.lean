import RouteAudit.Proofs.ComposedForms
import RouteAudit.Proofs.Registrations

/-!
# Mounting is transparent

At the segment levels a route on a mounted router is entered under the form that its path has when
it is written out: the path in front of all routes, the mounts of the router and the path of the
route, with slashes between them. So what stands above two routes makes no difference to whether
they share a form, as long as it is the same for both.
-/

namespace RouteAudit

namespace Audit

/-- At the segment levels, an entry is under the normalized texts of the parts of its path. -/
theorem entryPath_reached (settings : Settings) (hlevel : settings.level ≠ .raw)
    (steps : List AuditStep) (file : String) (registration : Registration) :
    (reached settings steps).entryPath file registration =
      "/" ++ "/".intercalate
        ((settings.pathParts (reached settings steps).table.toRouting registration).flatMap
          Segment.normalizedTexts) := by
  have hsound := (follows_reached settings steps).2
  rw [hsound.entryPath_eq, settings_reached, canonicalForm_of_ne_raw hlevel,
    Settings.normalizedTexts_fullPath]

end Audit

/-! ## Paths written out -/

/-- A text is not blank if it holds a character that is not. -/
theorem Text.allBlank_eq_false_iff {text : String} :
    Text.allBlank text = false ↔ ∃ c ∈ text.toList, Text.isBlank c = false := by
  simp [Text.allBlank]

/-- What a text holds is held by texts with slashes between them, of which it is one. -/
theorem Path.mem_intercalate {parts : List (List Char)} {part : List Char} {c : Char}
    (hpart : part ∈ parts) (hc : c ∈ part) : c ∈ ['/'].intercalate parts := by
  induction parts with
  | nil => cases hpart
  | cons first rest ih =>
    cases rest with
    | nil =>
      rw [List.mem_singleton.mp hpart] at hc
      simpa using hc
    | cons next rest =>
      rw [List.intercalate_cons_cons, List.mem_append]
      rcases List.mem_cons.mp hpart with rfl | hrest
      · exact Or.inl (List.mem_append_left _ hc)
      · exact Or.inr (ih hrest)

/-- The two ways of writing parts of a path out: with slashes between them, or joined. -/
def Path.writtenOut (parts : List String) : List String :=
  ["/".intercalate parts, Path.join parts]

/-- Parts that are written out have their normalized texts. -/
theorem Segment.normalizedTexts_writtenOut {parts : List String} {text : String}
    (htext : text ∈ Path.writtenOut parts) :
    normalizedTexts text = parts.flatMap normalizedTexts := by
  have hsegments : ofPath text = parts.flatMap ofPath := by
    rcases List.mem_cons.mp htext with rfl | hjoined
    · exact ofPath_intercalate parts
    · rw [List.mem_singleton.mp hjoined]
      exact ofPath_join parts
  rw [normalizedTexts, hsegments, List.map_flatMap]
  rfl

/-- Parts that are written out are not blank if one of them is not. -/
theorem Path.allBlank_writtenOut {parts : List String} {part text : String} (hpart : part ∈ parts)
    (hblank : Text.allBlank part = false) (htext : text ∈ Path.writtenOut parts) :
    Text.allBlank text = false := by
  apply Text.allBlank_eq_false_iff.mpr
  rcases List.mem_cons.mp htext with rfl | hjoined
  · obtain ⟨c, hc, hprinted⟩ := Text.allBlank_eq_false_iff.mp hblank
    refine ⟨c, ?_, hprinted⟩
    have hmem := Path.mem_intercalate (List.mem_map_of_mem (f := String.toList) hpart) hc
    simpa using hmem
  · rw [List.mem_singleton.mp hjoined]
    exact ⟨'/', by simp [Path.join], by decide⟩

namespace Audit

/-- What it means for a registration that the paths above it are transparent. -/
structure TransparentlyMounted (settings : Settings) (audit : Audit) (file : String)
    (registration : Registration) : Prop where
  /-- The registration is taken as the entry that it makes. -/
  registers : audit.Registers file registration (audit.routeOf file registration).value
  /-- The entry is under the normalized texts of the path in front of all routes, of the mounts and
  of the path of the registration, in this order. -/
  entryPath_eq : audit.entryPath file registration =
    "/" ++ "/".intercalate
      ((settings.globalPath.toList ++ audit.table.toRouting.mountsAbove registration ++
        [registration.path]).flatMap Segment.normalizedTexts)
  /-- A registration without a router whose path is all of these, written out, is entered under the
  same path where there is no path in front of all routes. -/
  writtenOut : ∀ text ∈ Path.writtenOut (settings.globalPath.toList ++
      audit.table.toRouting.mountsAbove registration ++ [registration.path]),
    ∀ (steps : List AuditStep) (otherFile : String) (other : Registration),
      other.router = none → other.path = text →
        (reached { settings with globalPath := none } steps).Registers otherFile other
            ((reached { settings with globalPath := none } steps).routeOf otherFile other).value ∧
          (reached { settings with globalPath := none } steps).entryPath otherFile other =
            audit.entryPath file registration
  /-- Under the same mounts, registrations are entered under the same path exactly if their own
  paths have the same canonical form. -/
  entryPath_eq_iff : ∀ (steps : List AuditStep) (otherFile : String) (other : Registration),
    (reached settings steps).table.toRouting.mountsAbove other =
        audit.table.toRouting.mountsAbove registration →
      ((reached settings steps).entryPath otherFile other = audit.entryPath file registration ↔
        ((reached settings steps).normalizer.normalize other.path settings.level
            settings.keepConstraints).1 =
          (audit.normalizer.normalize registration.path settings.level
            settings.keepConstraints).1)

/-- **Mounting is transparent.** At the segment levels, whatever was done to an audit, the path that
a route is entered under consists of the normalized texts of what stands above it and of its own.
Mounting a router is the same as writing its mounts out, and does not change which routes of the
router are entered under one path. -/
theorem mounts_transparent (settings : Settings) (hlevel : settings.level ≠ .raw)
    (steps : List AuditStep) (file : String) (registration : Registration)
    (hpath : Text.allBlank registration.path = false) :
    TransparentlyMounted settings (reached settings steps) file registration where
  registers := registers_routeOf _ file hpath
  entryPath_eq := entryPath_reached settings hlevel steps file registration
  writtenOut := by
    intro text htext otherSteps otherFile other hrouter hother
    have hprinted : Text.allBlank other.path = false := by
      rw [hother]
      exact Path.allBlank_writtenOut (by simp) hpath htext
    have hparts : ∀ routing : Routing,
        Settings.pathParts { settings with globalPath := none } routing other = [text] := by
      intro routing
      simp [Settings.pathParts, Routing.mountsAbove, hrouter, hother]
    refine ⟨registers_routeOf _ otherFile hprinted, ?_⟩
    rw [entryPath_reached { settings with globalPath := none } hlevel, hparts,
      List.flatMap_singleton, Segment.normalizedTexts_writtenOut htext,
      entryPath_reached settings hlevel steps, Settings.pathParts]
  entryPath_eq_iff := by
    intro otherSteps otherFile other hmounts
    have hsound := (follows_reached settings steps).2
    have hother := (follows_reached settings otherSteps).2
    rw [hsound.entryPath_eq, hother.entryPath_eq, settings_reached, settings_reached,
      hsound.normalizer.normalize_fst, hother.normalizer.normalize_fst]
    exact settings.canonicalForm_fullPath_eq_iff hlevel hmounts

/-- What is done in the example: a router is created and mounted under a path with a constrained
parameter, and then under another path. -/
def mountedBelowParameter : List AuditStep :=
  [.call (.beginRun (some "one")), .tableCall (.beginFile "a.js"),
    .tableCall (.createRouter "api" ⟨"Router", some "express"⟩ "express"),
    .tableCall (.mountUnder "api" "//v1/:tenant(\\d+)/"), .tableCall (.mountUnder "api" "users")]

/-- A route on this router is entered under the parameters of its mounts and its own, and with all
slashes in their places. -/
theorem mounts_transparent_below_parameter :
    Settings.default.level ≠ .raw ∧ Text.allBlank "//:id/" = false ∧
      TransparentlyMounted { Settings.default with globalPath := some "api/" }
        (reached { Settings.default with globalPath := some "api/" } mountedBelowParameter) "a.js"
        { method := "get", path := "//:id/", router := some "api" } ∧
      (reached { Settings.default with globalPath := some "api/" } mountedBelowParameter).entryPath
        "a.js" { method := "get", path := "//:id/", router := some "api" } =
          "/api/v1/:param/users/:param" :=
  ⟨by decide, by decide,
    mounts_transparent { Settings.default with globalPath := some "api/" } (by decide)
      mountedBelowParameter "a.js" { method := "get", path := "//:id/", router := some "api" }
      (by decide),
    by decide +kernel⟩

end Audit

end RouteAudit
