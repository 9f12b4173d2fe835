import RouteAudit.Proofs.LocalMounts

/-!
# Routers that other files resolve by name

A name that is not bound in the current file means the router that was exported first under it in
the run. The mounts of this router are told from the exchanges of the run: it has those that it was
given from its creation until its name came to mean something else, before and after the export. No
later call reaches the router, so what the name is resolved to stays until the next run.
-/

namespace RouteAudit

namespace RouterExchange

/-- The exchanges of the current run. -/
def sinceReset (exchanges : List RouterExchange) : List RouterExchange :=
  exchanges.rtakeWhile fun exchange => exchange.call ≠ .reset

/-- Whether an exchange exports the router of a name. -/
def exports (name : String) (exchange : RouterExchange) : Bool :=
  exchange.call = .exportRouter name ∧ exchange.answer = .success true

/-- Whether a name means the same router after an exchange, if it means one before: the file goes
on, and no other router is created under the name. -/
def keeps (name : String) (exchange : RouterExchange) : Bool :=
  !exchange.call.endsFile && !exchange.call.creates name

/-- The paths that exchanges add to the mounts of a name. -/
def mounts (name : String) (exchanges : List RouterExchange) : List String :=
  exchanges.filterMap (mounted? name)

/-- The mounts of the router that the exchanges of a run have exported first under a name: those
since its creation, and those behind its export for as long as the name means it. -/
def publishedMounts? (name : String) (run : List RouterExchange) : Option (List String) :=
  match run.dropWhile fun exchange => !exchange.exports name with
  | [] => none
  | _ :: behind =>
      let before := run.takeWhile fun exchange => !exchange.exports name
      some (mounts name (before.rtakeWhile fun exchange => !exchange.call.creates name) ++
        mounts name (behind.takeWhile (keeps name)))

/-- Nothing is published under a name that no exchange has exported. -/
theorem publishedMounts?_eq_none_iff {name : String} {run : List RouterExchange} :
    publishedMounts? name run = none ↔ ∀ exchange ∈ run, exchange.exports name = false := by
  unfold publishedMounts?
  constructor
  · intro hnone
    split at hnone
    · next hnil => simpa [List.dropWhile_eq_nil_iff] using hnil
    · cases hnone
  · intro hall
    rw [List.dropWhile_eq_nil_iff.mpr (by simpa using hall)]

/-- What is published first under a name, with an export of the name at a given place and none
before it. -/
theorem publishedMounts?_append {name : String} {before behind : List RouterExchange}
    {exchange : RouterExchange} (hbefore : ∀ exchange ∈ before, exchange.exports name = false)
    (hexports : exchange.exports name = true) :
    publishedMounts? name (before ++ exchange :: behind) =
      some (mounts name (before.rtakeWhile fun exchange => !exchange.call.creates name) ++
        mounts name (behind.takeWhile (keeps name))) := by
  have hpass : ∀ exchange ∈ before, (!exchange.exports name) = true := by simpa using hbefore
  have hstop : ¬(!exchange.exports name) = true := by simp [hexports]
  have htake : (before ++ exchange :: behind).takeWhile (fun exchange => !exchange.exports name) =
      before := by
    rw [List.takeWhile_append_of_pos hpass, List.takeWhile_cons_of_neg (by exact hstop),
      List.append_nil]
  have hdrop : (before ++ exchange :: behind).dropWhile (fun exchange => !exchange.exports name) =
      exchange :: behind := by
    rw [List.dropWhile_append_of_pos hpass, List.dropWhile_cons_of_neg (by exact hstop)]
  unfold publishedMounts?
  rw [htake, hdrop]

/-- A run with an export under a name has a first one. -/
theorem exists_first_export {name : String} {run : List RouterExchange}
    (h : ∃ exchange ∈ run, exchange.exports name = true) :
    ∃ before exchange behind, run = before ++ exchange :: behind ∧
      (∀ exchange ∈ before, exchange.exports name = false) ∧ exchange.exports name = true := by
  induction run with
  | nil => simp at h
  | cons head rest ih =>
    cases hhead : head.exports name with
    | true => exact ⟨[], head, rest, rfl, by simp, hhead⟩
    | false =>
      have hrest : ∃ exchange ∈ rest, exchange.exports name = true := by
        simpa [hhead] using h
      obtain ⟨before, exchange, behind, rfl, hbefore, hexports⟩ := ih hrest
      exact ⟨head :: before, exchange, behind, rfl, by simpa [hhead] using hbefore, hexports⟩

/-- Exchanges behind one at which a list is cut off do not matter. -/
theorem takeWhile_keeps_append {name : String} {front behind : List RouterExchange}
    {exchange : RouterExchange} (hends : exchange.keeps name = false) :
    (front ++ exchange :: behind).takeWhile (keeps name) = front.takeWhile (keeps name) := by
  rw [List.takeWhile_append]
  split
  · next hlength =>
    have hfront : front.takeWhile (keeps name) = front :=
      (List.takeWhile_prefix _).eq_of_length hlength
    rw [hfront, List.takeWhile_cons_of_neg (by simp [hends]), List.append_nil]
  · rfl

/-- When the file has been left, what is published under a name stays as it is. -/
theorem publishedMounts?_append_of_endsFile {name : String} {run behind : List RouterExchange}
    {exchange : RouterExchange} (hexport : ∃ exchange ∈ run, exchange.exports name = true)
    (hends : exchange.call.endsFile = true) :
    publishedMounts? name (run ++ exchange :: behind) = publishedMounts? name run := by
  obtain ⟨before, first, after, rfl, hbefore, hexports⟩ := exists_first_export hexport
  have hkeeps : exchange.keeps name = false := by simp [keeps, hends]
  rw [List.append_assoc, List.cons_append, publishedMounts?_append hbefore hexports,
    publishedMounts?_append hbefore hexports, takeWhile_keeps_append hkeeps]

/-- Exchanges without a new run belong to the current one. -/
theorem sinceReset_append {exchanges more : List RouterExchange}
    (hmore : ∀ exchange ∈ more, exchange.call ≠ .reset) :
    sinceReset (exchanges ++ more) = sinceReset exchanges ++ more := by
  induction more using List.reverseRecOn with
  | nil => simp
  | append_singleton front last ih =>
    obtain ⟨hmoreFront, hmoreLast⟩ := List.forall_mem_append.mp hmore
    have hlast : last.call ≠ .reset := hmoreLast _ (List.mem_singleton_self _)
    have hfront := ih hmoreFront
    unfold sinceReset at hfront ⊢
    rw [← List.append_assoc, List.rtakeWhile_concat_pos _ _ _ (by simpa using hlast), hfront,
      List.append_assoc]

end RouterExchange

namespace Routing

variable {start routing next last : Routing} {call : RouterCall} {answer : RouterAnswer}
  {exchanges run : List RouterExchange} {name path : String} {serial : Nat} {router : Router}

/-! ## The current run -/

/-- A new run knows of nothing. -/
theorem Transition.eq_of_reset (h : Transition routing .reset answer next) :
    next = { maxDepth := routing.maxDepth } := by
  cases h with
  | reset => rfl
  | mounted hgiven hlocal hroot hdepth => cases hgiven
  | passedOver hgiven hlocal hroot => cases hgiven
  | tooDeep hgiven hlocal hroot hdepth => cases hgiven
  | targetUnknown hgiven hlocal => cases hgiven

/-- The routing depends on the current run only. -/
theorem Reaches.sinceReset {maxDepth : Nat} (h : Reaches { maxDepth } exchanges routing) :
    Reaches { maxDepth } (RouterExchange.sinceReset exchanges) routing := by
  induction h with
  | refl => exact .refl
  | @step exchanges routing next call answer hbefore hlast ih =>
    unfold RouterExchange.sinceReset at ih ⊢
    by_cases hreset : call = .reset
    · subst hreset
      rw [List.rtakeWhile_concat_neg _ _ _ (by simp), hlast.eq_of_reset, hbefore.maxDepth_eq]
      exact .refl
    · rw [List.rtakeWhile_concat_pos _ _ _ (by simpa using hreset)]
      exact ih.step hlast

/-! ## While a name means a router -/

/-- A name goes on to mean a router until the file ends or another router is created under it. -/
theorem Transition.lookup_of_keeps (h : Transition routing call answer next)
    (hkeeps : RouterExchange.keeps name ⟨call, answer⟩ = true) :
    next.locals.lookup name = routing.locals.lookup name := by
  cases h with
  | reset => cases hkeeps
  | fileBegun path => cases hkeeps
  | @created identifier framework callee hfactory =>
    have hcreates : (RouterCall.createRouter identifier callee framework).creates name = false := by
      simpa [RouterExchange.keeps, RouterCall.endsFile] using hkeeps
    refine Named.lookup_put_of_ne _ _ ?_
    rintro rfl
    rw [RouterCall.creates_createRouter.mpr ⟨rfl, hfactory⟩] at hcreates
    cases hcreates
  | _ => rfl

/-- As long as a name means a router, the router takes the paths that are added to its mounts. -/
theorem Transition.local?_of_keeps (h : Transition routing call answer next)
    (hconsistent : routing.Consistent) (hlocal : routing.local? name = some (serial, router))
    (hkeeps : RouterExchange.keeps name ⟨call, answer⟩ = true) :
    ∃ later, next.local? name = some (serial, later) ∧
      later.mounts = router.mounts ++ RouterExchange.mounts name [⟨call, answer⟩] := by
  have hlookup := (h.lookup_of_keeps hkeeps).trans (local?_eq_some_iff.mp hlocal).1
  obtain ⟨later, hrouter, -⟩ := (hconsistent.transition h).locals hlookup
  have hnext : next.local? name = some (serial, later) :=
    local?_eq_some_iff.mpr ⟨hlookup, hrouter⟩
  refine ⟨later, hnext, ?_⟩
  obtain ⟨hends, hcreates⟩ : call.endsFile = false ∧ call.creates name = false := by
    simpa [RouterExchange.keeps] using hkeeps
  have hmounts := h.mountsHere?_eq hconsistent name
  unfold mountsHere? RouterExchange.mountsAfter? at hmounts
  rw [hnext, hlocal, hends, hcreates] at hmounts
  have hadded := Option.some.inj hmounts
  cases hmounted : RouterExchange.mounted? name ⟨call, answer⟩ <;>
    simpa [RouterExchange.mounts, hmounted] using hadded

/-- Over exchanges that let a name mean a router, the router takes the paths that they add. -/
theorem Reaches.local?_of_keeps (h : Reaches routing exchanges last)
    (hconsistent : routing.Consistent) (hlocal : routing.local? name = some (serial, router))
    (hkeeps : ∀ exchange ∈ exchanges, exchange.keeps name = true) :
    ∃ later, last.local? name = some (serial, later) ∧
      later.mounts = router.mounts ++ RouterExchange.mounts name exchanges := by
  induction h with
  | refl => exact ⟨router, hlocal, by simp [RouterExchange.mounts]⟩
  | step hbefore hlast ih =>
    obtain ⟨hkeepsBefore, hkeepsLast⟩ := List.forall_mem_append.mp hkeeps
    obtain ⟨middle, hmiddle, hmounts⟩ := ih hkeepsBefore
    obtain ⟨later, hlater, hadded⟩ := hlast.local?_of_keeps (hconsistent.reaches hbefore) hmiddle
      (hkeepsLast _ (List.mem_singleton_self _))
    refine ⟨later, hlater, ?_⟩
    rw [hadded, hmounts]
    simp [RouterExchange.mounts, List.filterMap_append]

/-- From the beginning of a run, a router has the mounts that were added since its creation. -/
theorem Reaches.mounts_eq {maxDepth : Nat} (h : Reaches { maxDepth } exchanges routing)
    {mounts : List String} (hmounts : routing.mountsHere? name = some mounts) :
    mounts = RouterExchange.mounts name
      (exchanges.rtakeWhile fun exchange => !exchange.call.creates name) := by
  induction h generalizing mounts with
  | refl => cases hmounts
  | @step exchanges routing next call answer hbefore hlast ih =>
    have hconsistent := (consistent_empty maxDepth).reaches hbefore
    rw [hlast.mountsHere?_eq hconsistent name] at hmounts
    unfold RouterExchange.mountsAfter? at hmounts
    split at hmounts
    · cases hmounts
    · split at hmounts
      · next hends hcreates =>
        obtain rfl := Option.some.inj hmounts
        rw [List.rtakeWhile_concat_neg _ _ _ (by simpa using hcreates)]
        rfl
      · next hends hcreates =>
        obtain ⟨before, hmountsBefore, rfl⟩ := Option.map_eq_some_iff.mp hmounts
        rw [List.rtakeWhile_concat_pos _ _ _ (by simpa using hcreates), ih hmountsBefore]
        cases hmounted : RouterExchange.mounted? name ⟨call, answer⟩ <;>
          simp [RouterExchange.mounts, hmounted]

/-! ## When no name means a router any more -/

/-- The name of a new router does not mean an older one. -/
theorem lookup_of_withRouter {identifier framework : String}
    (hrouter : routing.routers[serial]? = some router)
    (hlookup : (routing.withRouter identifier framework).locals.lookup name = some serial) :
    name ≠ identifier ∧ routing.locals.lookup name = some serial := by
  by_cases hname : name = identifier
  · subst hname
    have hnew : some routing.routers.length = some serial :=
      (Named.lookup_put_self _ _ _).symm.trans hlookup
    obtain ⟨hlength, -⟩ := List.getElem?_eq_some_iff.mp hrouter
    have hserial := Option.some.inj hnew
    omega
  · exact ⟨hname, (Named.lookup_put_of_ne _ _ hname).symm.trans hlookup⟩

/-- A router that no name of the current file means. -/
structure Unnamed (routing : Routing) (serial : Nat) (router : Router) : Prop where
  router : routing.routers[serial]? = some router
  unbound : ∀ name, routing.locals.lookup name ≠ some serial

/-- Until the next run, no call reaches a router that no name means. -/
theorem Unnamed.transition (h : routing.Unnamed serial router)
    (htransition : Transition routing call answer next) (hreset : call ≠ .reset) :
    next.Unnamed serial router := by
  have hchange {name : String} {place : Nat} {other : Router} (f : Router → Router)
      (hlocal : routing.local? name = some (place, other)) :
      (routing.change place f).Unnamed serial router := by
    have hplace : place ≠ serial := by
      rintro rfl
      exact h.unbound name (local?_eq_some_iff.mp hlocal).1
    refine ⟨?_, h.unbound⟩
    rw [getElem?_change_of_some f place h.router, if_neg hplace]
  cases htransition with
  | reset => exact absurd rfl hreset
  | fileBegun path => exact ⟨h.router, fun name hlookup => by simp at hlookup⟩
  | @created identifier framework callee hfactory =>
    refine ⟨getElem?_withRouter _ _ h.router, fun name hlookup => ?_⟩
    exact h.unbound name (lookup_of_withRouter h.router hlookup).2
  | mounted hgiven hlocal hroot hdepth => exact hchange _ hlocal
  | exported hlocal =>
    obtain ⟨hrouter, hunbound⟩ := hchange Router.marked hlocal
    exact ⟨hrouter, hunbound⟩
  | imported importedName localName source => exact ⟨h.router, h.unbound⟩
  | _ => exact h

/-- Until the next run, no exchange reaches a router that no name means. -/
theorem Unnamed.reaches (h : routing.Unnamed serial router)
    (hreaches : Reaches routing exchanges last)
    (hreset : ∀ exchange ∈ exchanges, exchange.call ≠ .reset) : last.Unnamed serial router := by
  induction hreaches with
  | refl => exact h
  | step hbefore hlast ih =>
    obtain ⟨hresetBefore, hresetLast⟩ := List.forall_mem_append.mp hreset
    exact (ih hresetBefore).transition hlast (hresetLast _ (List.mem_singleton_self _))

/-- When the file ends, or another router is created under its name, no name means a router. -/
theorem Transition.unnamed (h : Transition routing call answer next)
    (hconsistent : routing.Consistent) (hlocal : routing.local? name = some (serial, router))
    (hreset : call ≠ .reset) (hends : RouterExchange.keeps name ⟨call, answer⟩ = false) :
    next.Unnamed serial router := by
  obtain ⟨hlookup, hrouter⟩ := local?_eq_some_iff.mp hlocal
  have hgoesOn {given path : String} (hgiven : call.given? given = some path) :
      RouterExchange.keeps name ⟨call, answer⟩ = true := by
    obtain ⟨hfile, hcreates⟩ := RouterCall.endsFile_creates_of_given? hgiven name
    simp [RouterExchange.keeps, hfile, hcreates]
  cases h with
  | reset => exact absurd rfl hreset
  | fileBegun path => exact ⟨hrouter, fun other hother => by simp at hother⟩
  | @created identifier framework callee hfactory =>
    have hcreates : (RouterCall.createRouter identifier callee framework).creates name = true := by
      simpa [RouterExchange.keeps, RouterCall.endsFile] using hends
    obtain ⟨rfl, -⟩ := RouterCall.creates_createRouter.mp hcreates
    refine ⟨getElem?_withRouter _ _ hrouter, fun other hother => ?_⟩
    obtain ⟨hname, hold⟩ := lookup_of_withRouter hrouter hother
    exact hname (hconsistent.eq_of_lookup hlookup hold)
  | mounted hgiven _ _ _ => exact absurd (hgoesOn hgiven) (by simp [hends])
  | passedOver hgiven _ _ => exact absurd (hgoesOn hgiven) (by simp [hends])
  | tooDeep hgiven _ _ _ => exact absurd (hgoesOn hgiven) (by simp [hends])
  | targetUnknown hgiven _ => exact absurd (hgoesOn hgiven) (by simp [hends])
  | notCreated hfactory =>
    have hcreates := by simpa [RouterExchange.keeps, RouterCall.endsFile] using hends
    exact absurd (RouterCall.creates_createRouter.mp hcreates).2 hfactory
  | _ => cases hends

/-- Until the next run, a router that a name means gains the mounts that are added for as long as
the name means it, and none after that. -/
theorem Reaches.router_of_local? (h : Reaches routing exchanges last)
    (hconsistent : routing.Consistent) (hlocal : routing.local? name = some (serial, router))
    (hreset : ∀ exchange ∈ exchanges, exchange.call ≠ .reset) :
    ∃ later, last.routers[serial]? = some later ∧
      later.mounts = router.mounts ++
        RouterExchange.mounts name (exchanges.takeWhile (RouterExchange.keeps name)) := by
  have hparts := List.takeWhile_append_dropWhile (p := RouterExchange.keeps name) (l := exchanges)
  have hkeeps : ∀ exchange ∈ exchanges.takeWhile (RouterExchange.keeps name),
      exchange.keeps name = true := fun _ => List.mem_takeWhile_imp
  generalize exchanges.takeWhile (RouterExchange.keeps name) = live at hparts hkeeps ⊢
  cases hrest : exchanges.dropWhile (RouterExchange.keeps name) with
  | nil =>
    rw [hrest, List.append_nil] at hparts
    subst hparts
    obtain ⟨later, hlater, hmounts⟩ := h.local?_of_keeps hconsistent hlocal hkeeps
    exact ⟨later, (local?_eq_some_iff.mp hlater).2, hmounts⟩
  | cons ending rest =>
    have hends : ending.keeps name = false := by
      have hhead := List.head?_dropWhile_not (RouterExchange.keeps name) exchanges
      rw [hrest] at hhead
      exact hhead
    rw [hrest] at hparts
    subst hparts
    obtain ⟨middle, next, hlive, hending, hbehind⟩ := h.split_at
    obtain ⟨later, hlater, hmounts⟩ := hlive.local?_of_keeps hconsistent hlocal hkeeps
    obtain ⟨-, hresetEnding⟩ := List.forall_mem_append.mp hreset
    obtain ⟨hresetHead, hresetRest⟩ := List.forall_mem_cons.mp hresetEnding
    have hunnamed := hending.unnamed (hconsistent.reaches hlive) hlater hresetHead hends
    exact ⟨later, (hunnamed.reaches hbehind hresetRest).router, hmounts⟩

/-! ## Exports -/

/-- An exchange that does not export a name leaves its exports as they are. -/
theorem Transition.exportsOf_eq (h : Transition routing call answer next) (hreset : call ≠ .reset)
    (hexports : RouterExchange.exports name ⟨call, answer⟩ = false) :
    next.exportsOf name = routing.exportsOf name := by
  cases h with
  | reset => exact absurd rfl hreset
  | @exported exported serial router hlocal =>
    refine exportsOf_withExport_of_ne ?_
    rintro rfl
    simp [RouterExchange.exports] at hexports
  | _ => rfl

/-- Exchanges that do not export a name leave its exports as they are. -/
theorem Reaches.exportsOf_eq (h : Reaches routing exchanges last)
    (hreset : ∀ exchange ∈ exchanges, exchange.call ≠ .reset)
    (hexports : ∀ exchange ∈ exchanges, exchange.exports name = false) :
    last.exportsOf name = routing.exportsOf name := by
  induction h with
  | refl => rfl
  | step hbefore hlast ih =>
    obtain ⟨hresetBefore, hresetLast⟩ := List.forall_mem_append.mp hreset
    obtain ⟨hexportsBefore, hexportsLast⟩ := List.forall_mem_append.mp hexports
    have hkept := hlast.exportsOf_eq (hresetLast _ (List.mem_singleton_self _))
      (hexportsLast _ (List.mem_singleton_self _))
    exact hkept.trans (ih hresetBefore hexportsBefore)

/-- A call that exports a name exports the router that the name means. -/
theorem Transition.exists_of_exports (h : Transition routing call answer next)
    (hexports : RouterExchange.exports name ⟨call, answer⟩ = true) :
    ∃ serial router, routing.local? name = some (serial, router) ∧
      next = routing.withExport name serial := by
  obtain ⟨rfl, rfl⟩ : call = .exportRouter name ∧ answer = .success true := by
    simpa [RouterExchange.exports] using hexports
  cases h with
  | exported hlocal => exact ⟨_, _, hlocal, rfl⟩
  | mounted hgiven _ _ _ => cases hgiven
  | passedOver hgiven _ _ => cases hgiven

/-- In a run, a name that is not bound in the current file means the mounts that are published under
it. -/
theorem Reaches.mountsOf_eq {maxDepth : Nat} (h : Reaches { maxDepth } run last)
    (hreset : ∀ exchange ∈ run, exchange.call ≠ .reset) (hfree : last.local? name = none) :
    last.mountsOf name = (RouterExchange.publishedMounts? name run).getD [] := by
  unfold mountsOf
  rw [hfree]
  by_cases hexport : ∃ exchange ∈ run, exchange.exports name = true
  · obtain ⟨before, exchange, behind, rfl, hbefore, hexports⟩ :=
      RouterExchange.exists_first_export hexport
    rw [RouterExchange.publishedMounts?_append hbefore hexports]
    obtain ⟨middle, next, hfirst, hpublication, hbehind⟩ := h.split_at
    obtain ⟨hresetBefore, hresetBehind⟩ := List.forall_mem_append.mp hreset
    obtain ⟨hresetHere, hresetAfter⟩ := List.forall_mem_cons.mp hresetBehind
    obtain ⟨serial, router, hlocal, rfl⟩ := hpublication.exists_of_exports hexports
    -- The export is the first one under the name, and stays the first one.
    have hfirstExport : middle.exportsOf name = [] := hfirst.exportsOf_eq hresetBefore hbefore
    obtain ⟨more, hmore⟩ := hbehind.exportsOf_grows hresetAfter name
    rw [exportsOf_withExport_self, hfirstExport] at hmore
    -- What the router is mounted under before the export, and what it gains behind it.
    have hmiddle := (consistent_empty maxDepth).reaches hfirst
    have hmounts : router.mounts = RouterExchange.mounts name
        (before.rtakeWhile fun exchange => !exchange.call.creates name) :=
      hfirst.mounts_eq (by rw [mountsHere?, hlocal]; rfl)
    have hmarked : (middle.withExport name serial).local? name = some (serial, router.marked) := by
      rw [local?_withExport, local?_change_of_some _ _ hlocal, if_pos rfl]
    obtain ⟨later, hlater, hgained⟩ :=
      hbehind.router_of_local? (hmiddle.withExport hlocal) hmarked hresetAfter
    rw [← hmore]
    change ((last.routers[serial]?).map (·.mounts)).getD [] = _
    rw [hlater, ← hmounts]
    exact hgained
  · have hnone : ∀ exchange ∈ run, exchange.exports name = false := by simpa using hexport
    rw [h.exportsOf_eq hreset hnone, RouterExchange.publishedMounts?_eq_none_iff.mpr hnone]
    rfl

end Routing

namespace RouterTable

variable {maxDepth : Nat} {joins : Cache (List String) String}

/-- After every history of calls, a name that is not bound in the current file is resolved to the
join of the mounts that are published under it in the current run. -/
theorem effectivePath_of_not_local (hsound : joins.Sound Path.join) {calls : List RouterCall}
    {name : String} (hfree : (after maxDepth joins calls).local? name = none) :
    ((after maxDepth joins calls).effectivePath name).value =
      (RouterExchange.publishedMounts? name
        (RouterExchange.sinceReset (history maxDepth joins calls))).bind Routing.joined? := by
  have hreaches : Routing.Reaches { maxDepth } (history maxDepth joins calls) _ :=
    reaches_after calls
  have hrun := hreaches.sinceReset
  have hreset : ∀ exchange ∈ RouterExchange.sinceReset (history maxDepth joins calls),
      exchange.call ≠ .reset := by
    intro exchange hexchange
    simpa using List.mem_rtakeWhile_imp hexchange
  rw [(sound_after hsound calls).effectivePath_value, Routing.pathOf?,
    hrun.mountsOf_eq hreset hfree]
  cases RouterExchange.publishedMounts? name
    (RouterExchange.sinceReset (history maxDepth joins calls)) with
  | none => rfl
  | some mounts => rfl

/-- **A name means the router that was exported first under it.** After every history of calls, a
name that is not bound in the current file is resolved to nothing if it has not been exported in the
current run. If it has, it is resolved to the join of the mounts of the router that was exported
first. From the end of a file on, what has been exported in it is resolved in the same way until the
next run, whatever happens, in every file that does not bind the name. The memory of joins that the
table begins with may hold some, as long as they are right. -/
theorem exported_names_resolve (maxDepth : Nat) (hsound : joins.Sound Path.join)
    (calls : List RouterCall) (name : String) :
    ((after maxDepth joins calls).local? name = none →
      (∀ exchange ∈ RouterExchange.sinceReset (history maxDepth joins calls),
        exchange.exports name = false) →
      ((after maxDepth joins calls).effectivePath name).value = none) ∧
    ((after maxDepth joins calls).local? name = none →
      ((after maxDepth joins calls).effectivePath name).value =
        (RouterExchange.publishedMounts? name
          (RouterExchange.sinceReset (history maxDepth joins calls))).bind Routing.joined?) ∧
    ((∃ exchange ∈ RouterExchange.sinceReset (history maxDepth joins calls),
        exchange.exports name = true) →
      ∀ (path : String) (later : List RouterCall), RouterCall.reset ∉ later →
        (after maxDepth joins (calls ++ .beginFile path :: later)).local? name = none →
        ((after maxDepth joins (calls ++ .beginFile path :: later)).effectivePath name).value =
          (RouterExchange.publishedMounts? name
            (RouterExchange.sinceReset (history maxDepth joins calls))).bind Routing.joined?) := by
  refine ⟨?notExported, effectivePath_of_not_local hsound, ?left⟩
  case notExported =>
    intro hfree hnone
    rw [effectivePath_of_not_local hsound hfree,
      RouterExchange.publishedMounts?_eq_none_iff.mpr hnone]
    rfl
  case left =>
    intro hexported path later hlater hfree
    have hmore : RouterCall.reset ∉ RouterCall.beginFile path :: later := by simpa using hlater
    rw [effectivePath_of_not_local hsound hfree, history_append,
      RouterExchange.sinceReset_append (noReset_performAll _ hmore)]
    exact congrArg (Option.bind · Routing.joined?)
      (RouterExchange.publishedMounts?_append_of_endsFile hexported rfl)

/-- Before its export a name is resolved to nothing. A router that was also mounted behind its
export is resolved from a third file, although the second file has exported another one under its
name. -/
theorem exported_names_resolve_third_file :
    noJoins.Sound Path.join ∧
      (after 5 noJoins (RouterCall.exportedTwice.take 1)).local? "api" = none ∧
      (∀ exchange ∈ RouterExchange.sinceReset (history 5 noJoins (RouterCall.exportedTwice.take 1)),
        exchange.exports "api" = false) ∧
      ((after 5 noJoins (RouterCall.exportedTwice.take 1)).effectivePath "api").value = none ∧
      (∃ exchange ∈ RouterExchange.sinceReset (history 5 noJoins (RouterCall.exportedTwice.take 6)),
        exchange.exports "api" = true) ∧
      RouterCall.reset ∉ RouterCall.exportedTwice.drop 7 ++ [.beginFile "c.js"] ∧
      (after 5 noJoins (RouterCall.exportedTwice ++ [.beginFile "c.js"])).local? "api" = none ∧
      ((after 5 noJoins (RouterCall.exportedTwice ++ [.beginFile "c.js"])).effectivePath
        "api").value = some (Path.join ["/v1", "/users"]) := by
  have hearly : (after 5 noJoins (RouterCall.exportedTwice.take 1)).local? "api" = none := by decide
  have hnone : ∀ exchange ∈
      RouterExchange.sinceReset (history 5 noJoins (RouterCall.exportedTwice.take 1)),
      exchange.exports "api" = false := by decide
  have hexported : ∃ exchange ∈
      RouterExchange.sinceReset (history 5 noJoins (RouterCall.exportedTwice.take 6)),
      exchange.exports "api" = true := by decide
  have hlater : RouterCall.reset ∉ RouterCall.exportedTwice.drop 7 ++ [.beginFile "c.js"] := by
    decide
  have hfree : (after 5 noJoins (RouterCall.exportedTwice ++ [.beginFile "c.js"])).local? "api" =
      none := by decide
  have hpublished : RouterExchange.publishedMounts? "api"
      (RouterExchange.sinceReset (history 5 noJoins (RouterCall.exportedTwice.take 6))) =
      some ["/v1", "/users"] := by decide
  obtain ⟨hunresolved, -, -⟩ :=
    exported_names_resolve 5 sound_noJoins (RouterCall.exportedTwice.take 1) "api"
  obtain ⟨-, -, hleft⟩ :=
    exported_names_resolve 5 sound_noJoins (RouterCall.exportedTwice.take 6) "api"
  have hvalue := hleft hexported "b.js" _ hlater hfree
  rw [hpublished] at hvalue
  exact ⟨sound_noJoins, hearly, hnone, hunresolved hearly hnone, hexported, hlater, hfree, hvalue⟩

end RouterTable

end RouteAudit
