import RouteAudit.Proofs.RouterHistories

/-!
# Consistency of the routing

Names and exports mean routers by their serial numbers, and say of them nothing but what is the
case: a name of the current file means a router that was created under it in this file, a router is
marked as exported exactly if it stands in the table of exports, and mounts are counted and bounded.
Every transition keeps a routing consistent, so every routing that calls lead to is consistent.
-/

namespace RouteAudit

namespace Routing

variable {routing next : Routing} {name other : String} {serial : Nat} {router : Router}

/-! ## What names and exports mean after a change -/

/-- A name means a router if it is bound to the serial number of this router. -/
theorem local?_eq_some_iff :
    routing.local? name = some (serial, router) ↔
      routing.locals.lookup name = some serial ∧ routing.routers[serial]? = some router := by
  unfold local?
  simp [Option.bind_eq_some_iff]

/-- A change of one router leaves the others as they are. -/
theorem getElem?_change_of_some (f : Router → Router) (changed : Nat)
    (hrouter : routing.routers[serial]? = some router) :
    (routing.change changed f).routers[serial]? =
      some (if changed = serial then f router else router) := by
  unfold change
  rw [List.getElem?_modify, hrouter]
  rfl

/-- A router after a change of one router is what became of a router before it. -/
theorem exists_of_getElem?_change {f : Router → Router} {changed : Nat}
    (hrouter : (routing.change changed f).routers[serial]? = some router) :
    ∃ old, routing.routers[serial]? = some old ∧
      router = if changed = serial then f old else old := by
  unfold change at hrouter
  rw [List.getElem?_modify] at hrouter
  obtain ⟨old, hold, hnew⟩ := Option.map_eq_some_iff.mp hrouter
  exact ⟨old, hold, hnew.symm⟩

/-- A change of one router leaves the names as they are. -/
theorem local?_change_of_some (f : Router → Router) (changed : Nat)
    (hlocal : routing.local? name = some (serial, router)) :
    (routing.change changed f).local? name =
      some (serial, if changed = serial then f router else router) := by
  obtain ⟨hlookup, hrouter⟩ := local?_eq_some_iff.mp hlocal
  exact local?_eq_some_iff.mpr ⟨hlookup, getElem?_change_of_some f changed hrouter⟩

/-- What a name means after a change of one router is what became of what it meant before. -/
theorem exists_of_local?_change {f : Router → Router} {changed : Nat}
    (hlocal : (routing.change changed f).local? name = some (serial, router)) :
    ∃ old, routing.local? name = some (serial, old) ∧
      router = if changed = serial then f old else old := by
  obtain ⟨hlookup, hrouter⟩ := local?_eq_some_iff.mp hlocal
  obtain ⟨old, hold, hnew⟩ := exists_of_getElem?_change hrouter
  exact ⟨old, local?_eq_some_iff.mpr ⟨hlookup, hold⟩, hnew⟩

/-- One export more stands behind the others. -/
theorem exportsOf_withExport_self :
    (routing.withExport name serial).exportsOf name =
      routing.exportsOf name ++ [⟨name, routing.currentFile, serial⟩] := by
  change ((routing.exports.put name _).lookup name).getD [] = _
  rw [Named.lookup_put_self]
  rfl

/-- An export under one name is none under another. -/
theorem exportsOf_withExport_of_ne (hne : other ≠ name) :
    (routing.withExport name serial).exportsOf other = routing.exportsOf other := by
  change ((routing.exports.put name _).lookup other).getD [] = _
  rw [Named.lookup_put_of_ne _ _ hne]
  rfl

/-- Exporting a router marks it, and leaves the names as they are. -/
theorem local?_withExport :
    (routing.withExport name serial).local? other =
      (routing.change serial Router.marked).local? other := rfl

/-! ## Consistency -/

/-- What the names and the exports say is the case. -/
structure Consistent (routing : Routing) : Prop where
  /-- A name of the current file means a router that was created under it in this file. -/
  locals : ∀ {name : String} {serial : Nat}, routing.locals.lookup name = some serial →
    ∃ router, routing.routers[serial]? = some router ∧ router.identifier = name ∧
      router.file = routing.currentFile
  /-- Mounts are counted and bounded, and no mount is under a root path. -/
  mounts : ∀ {serial : Nat} {router : Router}, routing.routers[serial]? = some router →
    router.depth = router.mounts.length ∧ router.depth ≤ routing.maxDepth ∧
      ∀ path ∈ router.mounts, path ≠ "" ∧ path ≠ "/"
  /-- A router of the current file is marked as exported if it was exported under its name. -/
  exported_iff : ∀ {name : String} {serial : Nat} {router : Router},
    routing.local? name = some (serial, router) →
    (router.exported = true ↔ ∃ entry ∈ routing.exportsOf name, entry.router = serial)
  /-- An export is of a router that was created under its name in its file, and is so marked. -/
  exports : ∀ {name : String} {entry : RouterExport}, entry ∈ routing.exportsOf name →
    entry.identifier = name ∧ ∃ router, routing.routers[entry.router]? = some router ∧
      router.identifier = name ∧ router.file = entry.file ∧ router.exported = true

/-- Nothing is inconsistent about a routing without routers. -/
theorem consistent_empty (maxDepth : Nat) : Consistent { maxDepth } where
  locals h := by simp at h
  mounts h := by simp at h
  exported_iff h := by simp [local?] at h
  exports h := by simp [exportsOf] at h

/-- A router that a name means was created under this name in the current file. -/
theorem Consistent.of_local? (h : routing.Consistent)
    (hlocal : routing.local? name = some (serial, router)) :
    router.identifier = name ∧ router.file = routing.currentFile := by
  obtain ⟨hlookup, hrouter⟩ := local?_eq_some_iff.mp hlocal
  obtain ⟨found, hfound, hidentifier, hfile⟩ := h.locals hlookup
  obtain rfl : router = found := by simpa [hrouter] using hfound
  exact ⟨hidentifier, hfile⟩

/-- A name that means no router is not bound. -/
theorem Consistent.lookup_eq_none (h : routing.Consistent) (hlocal : routing.local? name = none) :
    routing.locals.lookup name = none := by
  cases hlookup : routing.locals.lookup name with
  | none => rfl
  | some serial =>
    obtain ⟨router, hrouter, -⟩ := h.locals hlookup
    have hbound := local?_eq_some_iff.mpr ⟨hlookup, hrouter⟩
    rw [hlocal] at hbound
    cases hbound

/-- No two names mean one router. -/
theorem Consistent.eq_of_lookup (h : routing.Consistent)
    (hname : routing.locals.lookup name = some serial)
    (hother : routing.locals.lookup other = some serial) : other = name := by
  obtain ⟨router, hrouter, hidentifier, -⟩ := h.locals hname
  obtain ⟨found, hfound, hfoundIdentifier, -⟩ := h.locals hother
  obtain rfl : router = found := by simpa [hrouter] using hfound
  exact hfoundIdentifier.symm.trans hidentifier

/-- A change of the router that one name means leaves the other names as they are. -/
theorem Consistent.local?_change_of_ne (h : routing.Consistent) (f : Router → Router)
    (hlocal : routing.local? name = some (serial, router)) (hne : other ≠ name) :
    (routing.change serial f).local? other = routing.local? other := by
  cases hother : routing.local? other with
  | none =>
    have hlookup : (routing.change serial f).locals.lookup other = none := h.lookup_eq_none hother
    unfold local?
    simp [hlookup]
  | some entry =>
    obtain ⟨place, found⟩ := entry
    have hserial : serial ≠ place := by
      rintro rfl
      exact hne (h.eq_of_lookup (local?_eq_some_iff.mp hlocal).1 (local?_eq_some_iff.mp hother).1)
    rw [local?_change_of_some f serial hother, if_neg hserial]

/-- Creating a router keeps the serial numbers of the others. -/
theorem getElem?_withRouter (identifier framework : String)
    (hrouter : routing.routers[serial]? = some router) :
    (routing.withRouter identifier framework).routers[serial]? = some router := by
  obtain ⟨hlength, -⟩ := List.getElem?_eq_some_iff.mp hrouter
  exact (List.getElem?_append_left hlength).trans hrouter

/-- A name means the router that was created under it. -/
theorem local?_withRouter_self (identifier framework : String) :
    (routing.withRouter identifier framework).local? identifier =
      some (routing.routers.length,
        { identifier, framework, file := routing.currentFile }) := by
  refine local?_eq_some_iff.mpr ⟨Named.lookup_put_self _ _ _, ?_⟩
  exact List.getElem?_concat_length

/-- Creating a router under one name leaves the other names as they are. -/
theorem Consistent.local?_withRouter_of_ne (h : routing.Consistent)
    (identifier framework : String) (hne : other ≠ identifier) :
    (routing.withRouter identifier framework).local? other = routing.local? other := by
  have hlookup : (routing.withRouter identifier framework).locals.lookup other =
      routing.locals.lookup other := Named.lookup_put_of_ne _ _ hne
  cases hold : routing.locals.lookup other with
  | none =>
    unfold local?
    simp [hlookup, hold]
  | some serial =>
    obtain ⟨router, hrouter, -⟩ := h.locals hold
    rw [local?_eq_some_iff.mpr ⟨hold, hrouter⟩]
    exact local?_eq_some_iff.mpr ⟨hlookup.trans hold, getElem?_withRouter _ _ hrouter⟩

/-- Creating a router keeps a routing consistent. -/
theorem Consistent.withRouter (h : routing.Consistent) (identifier framework : String) :
    (routing.withRouter identifier framework).Consistent where
  locals := by
    intro name serial hlookup
    by_cases hname : name = identifier
    · subst hname
      have hserial : some routing.routers.length = some serial :=
        (Named.lookup_put_self _ _ _).symm.trans hlookup
      obtain rfl := Option.some.inj hserial
      exact ⟨_, List.getElem?_concat_length, rfl, rfl⟩
    · have hold : routing.locals.lookup name = some serial :=
        (Named.lookup_put_of_ne _ _ hname).symm.trans hlookup
      obtain ⟨router, hrouter, hkept⟩ := h.locals hold
      exact ⟨router, getElem?_withRouter _ _ hrouter, hkept⟩
  mounts := by
    intro serial router hrouter
    change (routing.routers ++ [_])[serial]? = some router at hrouter
    by_cases hold : serial < routing.routers.length
    · rw [List.getElem?_append_left hold] at hrouter
      exact h.mounts hrouter
    · obtain ⟨hserial, -⟩ := List.getElem?_eq_some_iff.mp hrouter
      obtain rfl : serial = routing.routers.length := by simp at hserial; omega
      rw [List.getElem?_concat_length] at hrouter
      obtain rfl := Option.some.inj hrouter
      exact ⟨rfl, Nat.zero_le _, fun path hpath => absurd hpath List.not_mem_nil⟩
  exported_iff := by
    intro name serial router hlocal
    change router.exported = true ↔ ∃ entry ∈ routing.exportsOf name, entry.router = serial
    by_cases hname : name = identifier
    · subst hname
      rw [local?_withRouter_self] at hlocal
      obtain ⟨rfl, rfl⟩ := Prod.mk.inj (Option.some.inj hlocal)
      constructor
      · intro hexported
        cases hexported
      · rintro ⟨entry, hentry, hserial⟩
        obtain ⟨-, old, hold, -⟩ := h.exports hentry
        obtain ⟨hlength, -⟩ := List.getElem?_eq_some_iff.mp hold
        omega
    · rw [h.local?_withRouter_of_ne _ _ hname] at hlocal
      exact h.exported_iff hlocal
  exports := by
    intro name entry hentry
    obtain ⟨hidentifier, router, hrouter, hkept⟩ := h.exports hentry
    exact ⟨hidentifier, router, getElem?_withRouter _ _ hrouter, hkept⟩

/-- If a change of one router keeps its name and its file, names mean routers of theirs. -/
theorem Consistent.locals_change (h : routing.Consistent) (f : Router → Router)
    (hkept : ∀ router, (f router).identifier = router.identifier ∧ (f router).file = router.file)
    (changed : Nat) (hlookup : routing.locals.lookup name = some serial) :
    ∃ router, (routing.change changed f).routers[serial]? = some router ∧
      router.identifier = name ∧ router.file = routing.currentFile := by
  obtain ⟨router, hrouter, hname, hcurrent⟩ := h.locals hlookup
  obtain ⟨hidentifier, hfile⟩ := hkept router
  refine ⟨_, getElem?_change_of_some f changed hrouter, ?_⟩
  split
  · exact ⟨hidentifier.trans hname, hfile.trans hcurrent⟩
  · exact ⟨hname, hcurrent⟩

/-- One mount more, below the bound and not under a root path, keeps a routing consistent. -/
theorem Consistent.mountedUnder (h : routing.Consistent) {path : String}
    (hrouter : routing.routers[serial]? = some router)
    (hroot : Path.isRoot (some path) = false) (hdepth : router.depth < routing.maxDepth) :
    (routing.change serial (Router.mountedUnder path (router.depth + 1))).Consistent where
  locals := h.locals_change (Router.mountedUnder path (router.depth + 1)) (fun _ => ⟨rfl, rfl⟩) serial
  mounts := by
    intro place changed hplace
    obtain ⟨found, hfound, rfl⟩ := exists_of_getElem?_change hplace
    by_cases hserial : serial = place
    · subst hserial
      obtain rfl : router = found := by simpa [hrouter] using hfound
      obtain ⟨hcount, -, hpaths⟩ := h.mounts hrouter
      rw [if_pos rfl]
      refine ⟨by simp [Router.mountedUnder, hcount], hdepth, ?_⟩
      intro mounted hmounted
      rcases List.mem_append.mp hmounted with hmounted | hmounted
      · exact hpaths mounted hmounted
      · obtain rfl := List.mem_singleton.mp hmounted
        simpa [Path.isRoot] using hroot
    · rw [if_neg hserial]
      exact h.mounts hfound
  exported_iff := by
    intro name place changed hlocal
    obtain ⟨old, hold, rfl⟩ := exists_of_local?_change hlocal
    have hexported := h.exported_iff hold
    split
    · exact hexported
    · exact hexported
  exports := by
    intro name entry hentry
    obtain ⟨hidentifier, found, hfound, hkept⟩ := h.exports hentry
    refine ⟨hidentifier, _, getElem?_change_of_some _ serial hfound, ?_⟩
    split
    · exact hkept
    · exact hkept

/-- An export is still of a router of its name when some router has been marked as exported. -/
theorem Consistent.exports_marked (h : routing.Consistent) {entry : RouterExport}
    (hentry : entry ∈ routing.exportsOf name) (serial : Nat) :
    entry.identifier = name ∧
      ∃ router, (routing.change serial Router.marked).routers[entry.router]? = some router ∧
        router.identifier = name ∧ router.file = entry.file ∧ router.exported = true := by
  obtain ⟨hidentifier, found, hfound, hname, hfile, hexported⟩ := h.exports hentry
  refine ⟨hidentifier, _, getElem?_change_of_some _ serial hfound, ?_⟩
  split
  · exact ⟨hname, hfile, rfl⟩
  · exact ⟨hname, hfile, hexported⟩

/-- Exporting a router under its name keeps a routing consistent. -/
theorem Consistent.withExport (h : routing.Consistent)
    (hlocal : routing.local? name = some (serial, router)) :
    (routing.withExport name serial).Consistent where
  locals := h.locals_change Router.marked (fun _ => ⟨rfl, rfl⟩) serial
  mounts := by
    intro place changed hplace
    obtain ⟨found, hfound, rfl⟩ := exists_of_getElem?_change hplace
    have hmounts := h.mounts hfound
    split
    · exact hmounts
    · exact hmounts
  exported_iff := by
    intro other place changed hother
    rw [local?_withExport] at hother
    by_cases hname : other = name
    · subst hname
      obtain ⟨old, hold, rfl⟩ := exists_of_local?_change hother
      obtain ⟨rfl, rfl⟩ := Prod.mk.inj (Option.some.inj (hlocal.symm.trans hold))
      rw [if_pos rfl, exportsOf_withExport_self]
      refine ⟨fun _ => ?_, fun _ => rfl⟩
      exact ⟨_, List.mem_append_right _ (List.mem_singleton_self _), rfl⟩
    · rw [h.local?_change_of_ne _ hlocal hname] at hother
      rw [exportsOf_withExport_of_ne hname]
      exact h.exported_iff hother
  exports := by
    intro other entry hentry
    by_cases hname : other = name
    · subst hname
      rw [exportsOf_withExport_self] at hentry
      rcases List.mem_append.mp hentry with hentry | hentry
      · exact h.exports_marked hentry serial
      · obtain rfl := List.mem_singleton.mp hentry
        obtain ⟨hidentifier, hfile⟩ := h.of_local? hlocal
        have hmarked := getElem?_change_of_some Router.marked serial
          (local?_eq_some_iff.mp hlocal).2
        rw [if_pos rfl] at hmarked
        exact ⟨rfl, _, hmarked, hidentifier, hfile, rfl⟩
    · rw [exportsOf_withExport_of_ne hname] at hentry
      exact h.exports_marked hentry serial

/-- Every transition keeps a routing consistent. -/
theorem Consistent.transition (h : routing.Consistent) {call : RouterCall} {answer : RouterAnswer}
    (htransition : Transition routing call answer next) : next.Consistent := by
  cases htransition with
  | reset => exact consistent_empty routing.maxDepth
  | fileBegun path =>
    exact ⟨fun hlookup => by simp at hlookup, h.mounts, fun hlocal => by simp [local?] at hlocal,
      h.exports⟩
  | created hfactory => exact h.withRouter _ _
  | mounted hgiven hlocal hroot hdepth =>
    exact h.mountedUnder (local?_eq_some_iff.mp hlocal).2 hroot hdepth
  | exported hlocal => exact h.withExport hlocal
  | imported importedName localName source =>
    exact ⟨h.locals, h.mounts, h.exported_iff, h.exports⟩
  | _ => exact h

/-- Exchanges lead from consistent routings to consistent routings. -/
theorem Consistent.reaches (h : routing.Consistent) {exchanges : List RouterExchange}
    (hreaches : Reaches routing exchanges next) : next.Consistent := by
  induction hreaches with
  | refl => exact h
  | step _ htransition ih => exact ih.transition htransition

/-- A transition keeps the bound on the depth of mounts. -/
theorem Transition.maxDepth_eq {call : RouterCall} {answer : RouterAnswer}
    (h : Transition routing call answer next) : next.maxDepth = routing.maxDepth := by
  cases h <;> rfl

/-- Exchanges keep the bound on the depth of mounts. -/
theorem Reaches.maxDepth_eq {exchanges : List RouterExchange}
    (h : Reaches routing exchanges next) : next.maxDepth = routing.maxDepth := by
  induction h with
  | refl => rfl
  | step _ htransition ih => exact htransition.maxDepth_eq.trans ih

/-! ## Exports stay -/

/-- Until the next run, a transition adds exports behind the others at most. -/
theorem Transition.exportsOf_grows {call : RouterCall} {answer : RouterAnswer}
    (h : Transition routing call answer next) (hreset : call ≠ .reset) (name : String) :
    routing.exportsOf name <+: next.exportsOf name := by
  cases h with
  | reset => exact absurd rfl hreset
  | @exported exported serial router hlocal =>
    by_cases hname : name = exported
    · subst hname
      rw [exportsOf_withExport_self]
      exact List.prefix_append _ _
    · rewrite [exportsOf_withExport_of_ne hname]
      exact List.prefix_refl _
  | _ => exact List.prefix_refl _

/-- Until the next run, exchanges add exports behind the others at most. -/
theorem Reaches.exportsOf_grows {exchanges : List RouterExchange}
    (h : Reaches routing exchanges next) (hreset : ∀ exchange ∈ exchanges, exchange.call ≠ .reset)
    (name : String) : routing.exportsOf name <+: next.exportsOf name := by
  induction h with
  | refl => exact List.prefix_refl _
  | step _ htransition ih =>
    have hbefore := ih fun exchange hmem => hreset exchange (List.mem_append_left _ hmem)
    have hlast := hreset _ (List.mem_append_right _ (List.mem_singleton_self _))
    exact hbefore.trans (htransition.exportsOf_grows hlast name)

end Routing

namespace RouterTable

/-- **Names and exports tell the truth.** After every history of calls the routing is consistent,
under the bound that it began with, and until the next run the exports under every name only become
more, behind those that are there. -/
theorem routing_consistent (maxDepth : Nat) (joins : Cache (List String) String)
    (calls : List RouterCall) :
    (after maxDepth joins calls).maxDepth = maxDepth ∧
      (after maxDepth joins calls).Consistent ∧
      ∀ later : List RouterCall, RouterCall.reset ∉ later → ∀ name : String,
        (after maxDepth joins calls).exportsOf name <+:
          (after maxDepth joins (calls ++ later)).exportsOf name := by
  have hreaches : Routing.Reaches _ _ (after maxDepth joins calls).toRouting :=
    reaches_after calls
  refine ⟨hreaches.maxDepth_eq, (Routing.consistent_empty maxDepth).reaches hreaches, ?_⟩
  intro later hlater name
  rw [after_append]
  exact (Routing.reaches_performAll _ later).exportsOf_grows (noReset_performAll _ hlater) name

/-- Where a name is exported again in a later file, the first export stays the first one. -/
theorem routing_consistent_exportedTwice :
    RouterCall.reset ∉ RouterCall.exportedTwice.drop 6 ∧
      (after 5 noJoins (RouterCall.exportedTwice.take 6)).exportsOf "api" = [⟨"api", "a.js", 0⟩] ∧
      (after 5 noJoins (RouterCall.exportedTwice.take 6)).exportsOf "api" <+:
        (after 5 noJoins (RouterCall.exportedTwice.take 6 ++
          RouterCall.exportedTwice.drop 6)).exportsOf "api" := by
  have hlater : RouterCall.reset ∉ RouterCall.exportedTwice.drop 6 := by decide
  obtain ⟨-, -, hgrows⟩ := routing_consistent 5 noJoins (RouterCall.exportedTwice.take 6)
  exact ⟨hlater, rfl, hgrows _ hlater "api"⟩

end RouterTable

end RouteAudit
