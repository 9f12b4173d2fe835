import RouteAudit.Proofs.RunOutcomes

/-!
# Files without exports

The names of routers are bound anew in every file, and a name that is not bound there is only
resolved among the exports. Where nothing is exported, the routers of earlier files therefore shift
the serial numbers of later ones and have no other effect: every file makes the entries that it
makes in a run of its own.
-/

namespace RouteAudit

namespace Named

variable {α β : Type}

/-- The value of a name among values that were all changed in one way. -/
theorem lookup_map (f : α → β) (named : Named α) (name : String) :
    List.lookup name (named.map (Prod.map id f)) = (named.lookup name).map f := by
  induction named with
  | nil => rfl
  | cons entry rest ih =>
    obtain ⟨key, value⟩ := entry
    cases hsame : name == key <;> simp [List.lookup_cons, hsame, ih]

/-- A changed value is given like the value itself. -/
theorem put_map (f : α → β) (named : Named α) (name : String) (value : α) :
    put (named.map (Prod.map id f)) name (f value) =
      (named.put name value).map (Prod.map id f) := by
  induction named with
  | nil => rfl
  | cons entry rest ih =>
    obtain ⟨key, old⟩ := entry
    by_cases hsame : key = name
    · simp [put, hsame]
    · simpa [put, hsame] using ih

end Named

/-- Whether an event exports a router. -/
def Event.isExport : Event → Bool
  | .routerExported _ => true
  | _ => false

/-- No file of a list exports a router. -/
def WithoutExports (files : List SourceFile) : Prop :=
  ∀ file ∈ files, ∀ event ∈ file.events, event.isExport = false

/-- Whether there are exports can be tested. -/
instance (files : List SourceFile) : Decidable (WithoutExports files) :=
  inferInstanceAs (Decidable (∀ file ∈ files, ∀ event ∈ file.events, event.isExport = false))

namespace Routing

/-- A routing knows what another one knows, behind the routers of earlier files. Nothing is exported
in either of them. -/
structure Behind (earlier : List Router) (own routing : Routing) : Prop where
  maxDepth_eq : routing.maxDepth = own.maxDepth
  currentFile_eq : routing.currentFile = own.currentFile
  routers_eq : routing.routers = earlier ++ own.routers
  locals_eq : routing.locals = own.locals.map (Prod.map id (earlier.length + ·))
  exports_eq : routing.exports = []
  ownExports_eq : own.exports = []

variable {earlier : List Router} {own routing : Routing}

/-- A name means the same router behind those of earlier files, with a later serial number. -/
theorem Behind.local? (h : Behind earlier own routing) (name : String) :
    routing.local? name = (own.local? name).map (Prod.map (earlier.length + ·) id) := by
  unfold Routing.local?
  rw [h.locals_eq, h.routers_eq, Named.lookup_map]
  cases own.locals.lookup name with
  | none => rfl
  | some serial =>
    have hrouter : (earlier ++ own.routers)[earlier.length + serial]? = own.routers[serial]? := by
      rw [List.getElem?_append_right (Nat.le_add_right _ _), Nat.add_sub_cancel_left]
    cases hfound : own.routers[serial]? <;> simp [hrouter, hfound]

/-- A name has the same mounts behind the routers of earlier files. -/
theorem Behind.mountsOf (h : Behind earlier own routing) (name : String) :
    routing.mountsOf name = own.mountsOf name := by
  have hlocal := h.local? name
  unfold Routing.mountsOf exportsOf
  rw [hlocal, h.exports_eq, h.ownExports_eq]
  cases own.local? name <;> rfl

/-- A change behind the routers of earlier files leaves these as they are. -/
theorem modify_append_right (earlier later : List Router) (serial : Nat) (f : Router → Router) :
    (earlier ++ later).modify (earlier.length + serial) f = earlier ++ later.modify serial f := by
  induction earlier with
  | nil => simp
  | cons router rest ih =>
    rw [List.length_cons, Nat.add_right_comm, List.cons_append, List.modify_succ_cons, ih,
      List.cons_append]

/-- A router is changed behind those of earlier files. -/
theorem Behind.change (h : Behind earlier own routing) (serial : Nat) (f : Router → Router) :
    Behind earlier (own.change serial f) (routing.change (earlier.length + serial) f) := by
  refine ⟨h.maxDepth_eq, h.currentFile_eq, ?_, h.locals_eq, h.exports_eq, h.ownExports_eq⟩
  simp only [Routing.change, h.routers_eq, modify_append_right]

/-- A router is created behind those of earlier files. -/
theorem Behind.createRouter (h : Behind earlier own routing) (identifier : String)
    (callee : Callee) (framework : String) :
    Behind earlier (own.createRouter identifier callee framework).state
      (routing.createRouter identifier callee framework).state := by
  unfold Routing.createRouter
  by_cases hfactory : callee.name ∈ factories
  · simp only [if_pos hfactory]
    refine ⟨h.maxDepth_eq, h.currentFile_eq, ?_, ?_, h.exports_eq, h.ownExports_eq⟩
    · simp only [h.routers_eq, h.currentFile_eq, List.append_assoc]
    · simp only [h.routers_eq, h.locals_eq, List.length_append]
      exact Named.put_map (earlier.length + ·) own.locals identifier own.routers.length
  · simp only [if_neg hfactory]
    exact h

/-- A router is mounted behind those of earlier files. -/
theorem Behind.mountUnder (h : Behind earlier own routing) (identifier path : String) :
    Behind earlier (own.mountUnder identifier path).state
      (routing.mountUnder identifier path).state := by
  have hlocal := h.local? identifier
  unfold Routing.mountUnder
  rw [hlocal]
  cases own.local? identifier with
  | none => exact h
  | some entry =>
    obtain ⟨serial, router⟩ := entry
    by_cases hroot : Path.isRoot (some path)
    · simp only [Option.map_some, Prod.map, if_pos hroot]
      exact h
    · simp only [Option.map_some, Prod.map, if_neg hroot, h.maxDepth_eq]
      by_cases hdeep : own.maxDepth < router.depth + 1
      · simp only [id_eq, if_pos hdeep]
        exact h
      · simp only [id_eq, if_neg hdeep]
        exact h.change serial _

/-- An event that exports nothing comes to the same behind the routers of earlier files. -/
theorem Behind.advance (h : Behind earlier own routing) {event : Event}
    (hevent : event.isExport = false) :
    Behind earlier (own.advance event) (routing.advance event) := by
  cases event with
  | routerCreated identifier callee framework => exact h.createRouter identifier callee framework
  | mountAttempted callee arguments =>
    simp only [Routing.advance, mount, detectMount]
    split
    · exact h.mountUnder _ _
    · exact h
  | routerExported identifier => cases hevent
  | routerImported importedName localName source =>
    exact ⟨h.maxDepth_eq, h.currentFile_eq, h.routers_eq, h.locals_eq, h.exports_eq,
      h.ownExports_eq⟩
  | routeRegistered registration => exact h

/-- A file keeps the bound on the depth of mounts. -/
theorem maxDepth_pass (routing : Routing) (file : SourceFile) :
    (routing.pass file).maxDepth = routing.maxDepth := by
  unfold pass
  induction file.events using List.reverseRecOn with
  | nil => rfl
  | append_singleton events event ih =>
    rw [List.foldl_append, List.foldl_cons, List.foldl_nil, maxDepth_advance, ih]

/-- A file begins behind the routers of earlier files. -/
theorem behind_beginFile (hexports : routing.exports = []) (path : String) :
    Behind routing.routers (Routing.beginFile { maxDepth := routing.maxDepth } path).state
      (routing.beginFile path).state :=
  ⟨rfl, rfl, (List.append_nil _).symm, rfl, hexports, rfl⟩

end Routing

namespace Settings

variable {earlier : List Router} {own routing : Routing}

/-- An event makes the same entry behind the routers of earlier files. -/
theorem entry?_of_behind (settings : Settings) (h : Routing.Behind earlier own routing)
    (file : String) (event : Event) :
    settings.entry? routing file event = settings.entry? own file event := by
  have hpaths : routing.pathOf? = own.pathOf? := by
    funext name
    rw [Routing.pathOf?, Routing.pathOf?, h.mountsOf]
  cases event with
  | routeRegistered registration => simp only [Settings.entry?, routeOf, fullPath, hpaths]
  | _ => rfl

/-- Events that export nothing make the same entries behind the routers of earlier files, and leave
what they know behind these. -/
theorem entriesOf_of_behind (settings : Settings) (h : Routing.Behind earlier own routing)
    (file : String) {events : List Event} (hevents : ∀ event ∈ events, event.isExport = false) :
    settings.entriesOf file routing events = settings.entriesOf file own events ∧
      Routing.Behind earlier (events.foldl Routing.advance own)
        (events.foldl Routing.advance routing) := by
  induction events generalizing own routing with
  | nil => exact ⟨rfl, h⟩
  | cons event rest ih =>
    obtain ⟨hevent, hrest⟩ := List.forall_mem_cons.mp hevents
    obtain ⟨hothers, hlast⟩ := ih (h.advance hevent) hrest
    refine ⟨?_, hlast⟩
    rw [entriesOf, entriesOf, settings.entry?_of_behind h, hothers]

/-- The entries of a new run over one file are those of its events. -/
theorem newEntries_singleton (settings : Settings) (file : SourceFile) :
    settings.newEntries [file] =
      settings.entriesOf file.path
        (Routing.beginFile { maxDepth := settings.maxDepth } file.path).state file.events :=
  List.append_nil _

/-- Without exports, files make the entries that each of them makes in a run of its own, whatever
routers earlier files have created. -/
theorem entries_eq_flatMap (settings : Settings) {files : List SourceFile}
    (hfiles : WithoutExports files) (hdepth : routing.maxDepth = settings.maxDepth)
    (hexports : routing.exports = []) :
    settings.entries routing files = files.flatMap fun file => settings.newEntries [file] := by
  induction files generalizing routing with
  | nil => rfl
  | cons file rest ih =>
    obtain ⟨hfile, hrest⟩ := List.forall_mem_cons.mp hfiles
    -- Only that nothing is exported goes on to the next file; there may be any routers by then.
    obtain ⟨hentries, hpassed⟩ :=
      settings.entriesOf_of_behind (Routing.behind_beginFile hexports file.path) file.path hfile
    have hothers := ih hrest ((routing.maxDepth_pass file).trans hdepth) hpassed.exports_eq
    rw [entries, List.flatMap_cons, newEntries_singleton, hentries, hdepth, hothers]

/-- Without exports, the entries of a new run are those that each file makes in a run of its own. -/
theorem newEntries_eq_flatMap (settings : Settings) {files : List SourceFile}
    (hfiles : WithoutExports files) :
    settings.newEntries files = files.flatMap fun file => settings.newEntries [file] :=
  settings.entries_eq_flatMap hfiles rfl rfl

end Settings

end RouteAudit
