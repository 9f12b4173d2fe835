import RouteAudit.Proofs.RoutingConsistency

/-!
# Mounts of the routers of a file

A name of the current file means the router that was last created under it in this file. Its mounts
are told from the calls alone: of the paths that were given to the name since then, root paths add
nothing, and the others are taken until there are as many mounts as the bound allows. Every call
that gives a path is answered by whether the path was taken.
-/

namespace RouteAudit

namespace RouterCall

/-- Whether calls have created a router under a name in the file that they leave current. -/
def createdHere (name : String) (calls : List RouterCall) : Bool :=
  (calls.rtakeWhile fun call => !call.endsFile).any (·.creates name)

/-- The paths that calls have given to a name since they last created a router under it. -/
def givenSince (name : String) (calls : List RouterCall) : List String :=
  (calls.rtakeWhile fun call => !call.creates name).filterMap (·.given? name)

/-- A call that ends the file leaves nothing created in the current one. -/
theorem createdHere_of_endsFile {name : String} {calls : List RouterCall} {call : RouterCall}
    (hends : call.endsFile = true) : createdHere name (calls ++ [call]) = false := by
  unfold createdHere
  rw [List.rtakeWhile_concat_neg _ _ _ (by simp [hends])]
  rfl

/-- A call that stays in the file may create a router in it. -/
theorem createdHere_concat {name : String} {calls : List RouterCall} {call : RouterCall}
    (hends : call.endsFile = false) :
    createdHere name (calls ++ [call]) = (createdHere name calls || call.creates name) := by
  unfold createdHere
  rw [List.rtakeWhile_concat_pos _ _ _ (by simp [hends])]
  simp

/-- To a router that has just been created no paths have been given. -/
theorem givenSince_of_creates {name : String} {calls : List RouterCall} {call : RouterCall}
    (hcreates : call.creates name = true) : givenSince name (calls ++ [call]) = [] := by
  unfold givenSince
  rw [List.rtakeWhile_concat_neg _ _ _ (by simp [hcreates])]
  rfl

/-- A path is given after those that were given before. -/
theorem givenSince_concat {name : String} {calls : List RouterCall} {call : RouterCall}
    (hcreates : call.creates name = false) :
    givenSince name (calls ++ [call]) = givenSince name calls ++ (call.given? name).toList := by
  unfold givenSince
  rw [List.rtakeWhile_concat_pos _ _ _ (by simp [hcreates]), List.filterMap_append]
  cases hgiven : call.given? name <;> simp [hgiven]

end RouterCall

namespace Path

/-- The paths of a list that are not root paths. -/
def proper (paths : List String) : List String :=
  paths.filter fun path => !isRoot (some path)

/-- Of the proper paths of a list, the first ones up to a bound: one more path is taken if it is
proper and the bound is not reached. -/
theorem take_proper_concat (bound : Nat) (paths : List String) (path : String) :
    (proper (paths ++ [path])).take bound =
      (proper paths).take bound ++
        if isRoot (some path) = false ∧ ((proper paths).take bound).length < bound then [path]
        else [] := by
  cases hroot : isRoot (some path) with
  | true => simp [proper, hroot]
  | false =>
    have hproper : proper (paths ++ [path]) = proper paths ++ [path] := by simp [proper, hroot]
    rw [hproper, List.take_append, List.length_take]
    by_cases hfull : bound ≤ (proper paths).length
    · have hlength : min bound (proper paths).length = bound := by omega
      simp [hlength, Nat.sub_eq_zero_of_le hfull]
    · have hlength : min bound (proper paths).length < bound := by omega
      have hrest : [path].take (bound - (proper paths).length) = [path] :=
        List.take_of_length_le (by simp only [List.length_singleton]; omega)
      simp [hlength, hrest]

end Path

namespace RouterExchange

/-- The path by which an exchange adds to the mounts of a name: it was given to the name and
accepted, and it is not a root path. -/
def mounted? (name : String) (exchange : RouterExchange) : Option String :=
  if exchange.answer = .success true then
    (exchange.call.given? name).filter fun path => !Path.isRoot (some path)
  else none

/-- The mounts that a name has after an exchange, told from those before it. A call that ends a file
leaves no names, one that creates a router under the name leaves it without mounts, and every other
one adds the path that it is accepted to give. -/
def mountsAfter? (name : String) (before : Option (List String)) (exchange : RouterExchange) :
    Option (List String) :=
  if exchange.call.endsFile then none
  else if exchange.call.creates name then some []
  else before.map (· ++ (exchange.mounted? name).toList)

/-- An exchange that neither ends a file nor creates nor mounts the router of a name leaves its
mounts as they are. -/
theorem mountsAfter?_of_quiet {name : String} {exchange : RouterExchange}
    (hends : exchange.call.endsFile = false) (hcreates : exchange.call.creates name = false)
    (hmounted : exchange.mounted? name = none) (before : Option (List String)) :
    mountsAfter? name before exchange = before := by
  unfold mountsAfter?
  rw [hends, hcreates, hmounted]
  simp

/-- An exchange in which a path is given to another name mounts nothing under this one. -/
theorem mounted?_eq_none_of_ne {name other path : String} {exchange : RouterExchange}
    (hgiven : exchange.call.given? other = some path) (hne : name ≠ other) :
    exchange.mounted? name = none := by
  unfold mounted?
  rw [RouterCall.given?_unique hgiven, if_neg (Ne.symm hne)]
  split <;> rfl

/-- A root path is never mounted. -/
theorem mounted?_eq_none_of_isRoot {name path : String} {exchange : RouterExchange}
    (hgiven : exchange.call.given? name = some path) (hroot : Path.isRoot (some path) = true) :
    exchange.mounted? name = none := by
  unfold mounted?
  rw [hgiven]
  split
  · simp [hroot]
  · rfl

end RouterExchange

namespace Routing

variable {routing next : Routing} {call : RouterCall} {answer : RouterAnswer}
  {name other path : String} {serial : Nat} {router : Router}

/-- The mounts of the router that a name means in the current file. -/
def mountsHere? (routing : Routing) (name : String) : Option (List String) :=
  (routing.local? name).map fun entry => entry.2.mounts

/-! ## One call -/

/-- Marking a router as exported adds nothing to mounts. -/
theorem mountsHere?_withExport (serial : Nat) (exported name : String) :
    (routing.withExport exported serial).mountsHere? name = routing.mountsHere? name := by
  unfold mountsHere?
  rw [local?_withExport]
  cases hlocal : routing.local? name with
  | none =>
    cases hmarked : (routing.change serial Router.marked).local? name with
    | none => rfl
    | some entry =>
      obtain ⟨old, hold, -⟩ := exists_of_local?_change hmarked
      rw [hlocal] at hold
      cases hold
  | some entry =>
    obtain ⟨place, router⟩ := entry
    rw [local?_change_of_some Router.marked serial hlocal]
    by_cases hserial : serial = place
    · rw [if_pos hserial]
      rfl
    · rw [if_neg hserial]

/-- The mounts of a name after a transition are told from those before it, the call and the
answer. -/
theorem Transition.mountsHere?_eq (h : Transition routing call answer next)
    (hconsistent : routing.Consistent) (name : String) :
    next.mountsHere? name =
      RouterExchange.mountsAfter? name (routing.mountsHere? name) ⟨call, answer⟩ := by
  cases h with
  | reset => rfl
  | fileBegun path => rfl
  | @created identifier framework callee hfactory =>
    by_cases hname : name = identifier
    · subst hname
      have hcreates : (RouterCall.createRouter name callee framework).creates name = true :=
        RouterCall.creates_createRouter.mpr ⟨rfl, hfactory⟩
      unfold RouterExchange.mountsAfter? mountsHere?
      rw [hcreates, local?_withRouter_self]
      rfl
    · have hcreates : (RouterCall.createRouter identifier callee framework).creates name = false :=
        Bool.eq_false_iff.mpr fun h => hname (RouterCall.creates_createRouter.mp h).1.symm
      rw [RouterExchange.mountsAfter?_of_quiet rfl hcreates rfl, mountsHere?, mountsHere?,
        hconsistent.local?_withRouter_of_ne _ _ hname]
  | @notCreated identifier framework callee hfactory =>
    have hcreates : (RouterCall.createRouter identifier callee framework).creates name = false :=
      Bool.eq_false_iff.mpr fun h => hfactory (RouterCall.creates_createRouter.mp h).2
    exact (RouterExchange.mountsAfter?_of_quiet rfl hcreates rfl _).symm
  | @mounted _ given path serial router hgiven hlocal hroot hdepth =>
    obtain ⟨hends, hcreates⟩ := RouterCall.endsFile_creates_of_given? hgiven name
    by_cases hname : name = given
    · subst hname
      have hmounted : RouterExchange.mounted? name ⟨call, .success true⟩ = some path := by
        simp [RouterExchange.mounted?, hgiven, hroot]
      unfold RouterExchange.mountsAfter? mountsHere?
      rw [hends, hcreates, hmounted, hlocal, local?_change_of_some _ serial hlocal, if_pos rfl]
      rfl
    · have hmounted : RouterExchange.mounted? name ⟨call, .success true⟩ = none :=
        RouterExchange.mounted?_eq_none_of_ne hgiven hname
      rw [RouterExchange.mountsAfter?_of_quiet hends hcreates hmounted, mountsHere?, mountsHere?,
        hconsistent.local?_change_of_ne _ hlocal hname]
  | @passedOver _ given path serial router hgiven hlocal hroot =>
    obtain ⟨hends, hcreates⟩ := RouterCall.endsFile_creates_of_given? hgiven name
    refine (RouterExchange.mountsAfter?_of_quiet hends hcreates ?_ _).symm
    by_cases hname : name = given
    · subst hname
      exact RouterExchange.mounted?_eq_none_of_isRoot hgiven hroot
    · exact RouterExchange.mounted?_eq_none_of_ne hgiven hname
  | tooDeep hgiven hlocal hroot hdepth =>
    obtain ⟨hends, hcreates⟩ := RouterCall.endsFile_creates_of_given? hgiven name
    exact (RouterExchange.mountsAfter?_of_quiet hends hcreates rfl _).symm
  | targetUnknown hgiven hlocal =>
    obtain ⟨hends, hcreates⟩ := RouterCall.endsFile_creates_of_given? hgiven name
    exact (RouterExchange.mountsAfter?_of_quiet hends hcreates rfl _).symm
  | exported hlocal =>
    rw [RouterExchange.mountsAfter?_of_quiet rfl rfl rfl]
    exact mountsHere?_withExport _ _ name
  | _ => exact (RouterExchange.mountsAfter?_of_quiet rfl rfl rfl _).symm

/-- A call that gives a path to a name is answered by whether the name means a router and the path
is a root path or the router has less mounts than the bound allows. -/
theorem Transition.answer_of_given? (h : Transition routing call answer next)
    (hconsistent : routing.Consistent) (hgiven : call.given? name = some path) :
    answer = .success ((routing.mountsHere? name).any fun mounts =>
      Path.isRoot (some path) || decide (mounts.length < routing.maxDepth)) := by
  have hsame {other given : String} (hother : call.given? other = some given) :
      other = name ∧ given = path := by
    have hunique : call.given? name = if other = name then some given else none :=
      RouterCall.given?_unique hother
    rw [hgiven] at hunique
    split at hunique
    · next hname => exact ⟨hname, (Option.some.inj hunique).symm⟩
    · cases hunique
  have hcount {serial : Nat} {router : Router}
      (hlocal : routing.local? name = some (serial, router)) :
      router.depth = router.mounts.length :=
    (hconsistent.mounts (local?_eq_some_iff.mp hlocal).2).1
  cases h with
  | mounted hother hlocal hroot hdepth =>
    obtain ⟨rfl, rfl⟩ := hsame hother
    rw [hcount hlocal] at hdepth
    simp [mountsHere?, hlocal, hdepth]
  | passedOver hother hlocal hroot =>
    obtain ⟨rfl, rfl⟩ := hsame hother
    simp [mountsHere?, hlocal, hroot]
  | tooDeep hother hlocal hroot hdepth =>
    obtain ⟨rfl, rfl⟩ := hsame hother
    rw [hcount hlocal] at hdepth
    simp [mountsHere?, hlocal, hroot, hdepth]
  | targetUnknown hother hlocal =>
    obtain ⟨rfl, rfl⟩ := hsame hother
    simp [mountsHere?, hlocal]
  | notMounted hother =>
    rw [hother name] at hgiven
    cases hgiven
  | _ => cases hgiven

/-- A path that is given to a name adds to its mounts if it is not a root path and there are less
than the bound allows. -/
theorem Transition.mounted?_of_given? (h : Transition routing call answer next)
    (hconsistent : routing.Consistent) {mounts : List String}
    (hmounts : routing.mountsHere? name = some mounts) (hgiven : call.given? name = some path) :
    (RouterExchange.mounted? name ⟨call, answer⟩).toList =
      if Path.isRoot (some path) = false ∧ mounts.length < routing.maxDepth then [path] else [] := by
  have hanswer := h.answer_of_given? hconsistent hgiven
  rw [hmounts, Option.any_some] at hanswer
  subst hanswer
  cases hroot : Path.isRoot (some path) with
  | true =>
    rw [RouterExchange.mounted?_eq_none_of_isRoot hgiven hroot]
    simp
  | false =>
    by_cases hroom : mounts.length < routing.maxDepth
    · simp [RouterExchange.mounted?, hgiven, hroot, hroom]
    · simp [RouterExchange.mounted?, hroom]

/-- A refused call changes nothing. -/
theorem Transition.eq_of_refused (h : Transition routing call answer next)
    (hrefused : answer = .success false) : next = routing := by
  cases h with
  | notCreated hfactory => rfl
  | tooDeep hgiven hlocal hroot hdepth => rfl
  | targetUnknown hgiven hlocal => rfl
  | notMounted hgiven => rfl
  | notExported hlocal => rfl
  | _ => cases hrefused

/-- A call about one name leaves what another name means as it is. -/
theorem Transition.local?_of_subject?_ne (h : Transition routing call answer next)
    (hconsistent : routing.Consistent) (hsubject : call.subject? = some other)
    (hne : name ≠ other) : next.local? name = routing.local? name := by
  cases h with
  | reset => cases hsubject
  | fileBegun path => cases hsubject
  | created hfactory =>
    obtain rfl := Option.some.inj hsubject
    exact hconsistent.local?_withRouter_of_ne _ _ hne
  | mounted hgiven hlocal hroot hdepth =>
    have hgivenSubject := RouterCall.subject?_of_given? hgiven
    obtain rfl := Option.some.inj (hsubject.symm.trans hgivenSubject)
    exact hconsistent.local?_change_of_ne _ hlocal hne
  | exported hlocal =>
    obtain rfl := Option.some.inj hsubject
    rw [local?_withExport]
    exact hconsistent.local?_change_of_ne _ hlocal hne
  | _ => rfl

/-! ## Histories of calls -/

/-- **Mounts are told from the calls alone.** From the beginning, a name means a router if one was
created under it in the current file, and then its mounts are the proper ones of the paths that were
given to it since, as many as the bound allows. -/
theorem Reaches.mountsHere?_eq_given {maxDepth : Nat} {exchanges : List RouterExchange}
    (h : Reaches { maxDepth } exchanges routing) (name : String) :
    routing.mountsHere? name =
      if RouterCall.createdHere name (exchanges.map RouterExchange.call) then
        some ((Path.proper (RouterCall.givenSince name
          (exchanges.map RouterExchange.call))).take maxDepth)
      else none := by
  induction h with
  | refl => rfl
  | @step exchanges routing next call answer hbefore hlast ih =>
    have hconsistent := (consistent_empty maxDepth).reaches hbefore
    have hbound : routing.maxDepth = maxDepth := hbefore.maxDepth_eq
    rw [hlast.mountsHere?_eq hconsistent name, List.map_append, List.map_singleton]
    unfold RouterExchange.mountsAfter?
    cases hends : call.endsFile with
    | true =>
      rw [RouterCall.createdHere_of_endsFile hends]
      rfl
    | false =>
      rw [RouterCall.createdHere_concat hends]
      cases hcreates : call.creates name with
      | true => simp [RouterCall.givenSince_of_creates hcreates, Path.proper]
      | false =>
        rw [RouterCall.givenSince_concat hcreates, Bool.or_false, ih]
        cases hcreated : RouterCall.createdHere name (exchanges.map RouterExchange.call) with
        | false => rfl
        | true =>
          rw [hcreated, if_pos rfl] at ih
          rw [if_pos rfl, if_pos rfl, Option.map_some]
          cases hgiven : call.given? name with
          | none => simp [RouterExchange.mounted?, hgiven]
          | some path =>
            rw [hlast.mounted?_of_given? hconsistent ih hgiven, Option.toList_some,
              Path.take_proper_concat, hbound]
            rfl

end Routing

namespace RouterTable

/-- What holds of a router that a name means in the current file, when given paths have come to the
name since the router was created. -/
structure Accumulates (table : RouterTable) (bound : Nat) (name : String) (given : List String)
    (serial : Nat) (router : Router) : Prop where
  /-- Of the given paths, the proper ones are taken until the bound is reached. -/
  mounts : router.mounts = (Path.proper given).take bound
  depth : router.depth = router.mounts.length
  path : (table.effectivePath name).value =
    if router.mounts = [] then none else some (Path.join router.mounts)
  /-- A further path is accepted if it adds nothing, or if the bound is not reached. -/
  accepted : ∀ (call : RouterCall) (path : String), call.given? name = some path →
    (table.perform call).1 =
      .success (path == "" || path == "/" || decide (router.mounts.length < bound))
  /-- A refused call leaves the router as it is. -/
  refused : ∀ call : RouterCall, (table.perform call).1 = .success false →
    (table.perform call).2.local? name = some (serial, router)
  /-- A call about another name leaves the router as it is. -/
  others : ∀ (call : RouterCall) (other : String), call.subject? = some other → other ≠ name →
    (table.perform call).2.local? name = some (serial, router)

/-- A table resolves a name of the current file by joining the mounts of its router. -/
theorem Sound.effectivePath_of_local? {table : RouterTable} (h : table.Sound) {name : String}
    {serial : Nat} {router : Router} (hlocal : table.local? name = some (serial, router)) :
    (table.effectivePath name).value =
      if router.mounts = [] then none else some (Path.join router.mounts) := by
  rw [h.effectivePath_value]
  unfold Routing.pathOf? Routing.mountsOf Routing.joined?
  rw [hlocal]
  simp only [List.isEmpty_iff]

/-- **Mounts accumulate up to the bound.** After every history of calls a name means a router if one
was created under it in the current file. The mounts of the router are the proper ones among the
paths that were given to the name since, as many as the bound allows; the name is resolved to their
join; and further calls add to them only if they are accepted and about this name. The memory of
joins that the table begins with may hold some, as long as they are right. -/
theorem local_mounts_accumulate (maxDepth : Nat) {joins : Cache (List String) String}
    (hsound : joins.Sound Path.join) (calls : List RouterCall) (name : String) :
    ((after maxDepth joins calls).local? name).isSome = RouterCall.createdHere name calls ∧
      ∀ (serial : Nat) (router : Router),
        (after maxDepth joins calls).local? name = some (serial, router) →
        (after maxDepth joins calls).Accumulates maxDepth name (RouterCall.givenSince name calls)
          serial router := by
  have hreaches : Routing.Reaches _ _ (after maxDepth joins calls).toRouting :=
    reaches_after calls
  have hconsistent := (Routing.consistent_empty maxDepth).reaches hreaches
  have hbound : (after maxDepth joins calls).maxDepth = maxDepth := hreaches.maxDepth_eq
  have htable : (after maxDepth joins calls).Sound := sound_after hsound calls
  have hmounts := hreaches.mountsHere?_eq_given name
  rw [map_call_history] at hmounts
  generalize after maxDepth joins calls = table at *
  constructor
  · have hsome : (table.local? name).isSome = (table.toRouting.mountsHere? name).isSome :=
      Option.isSome_map.symm
    rw [hsome, hmounts]
    cases RouterCall.createdHere name calls <;> rfl
  · intro serial router hlocal
    have hhere : table.toRouting.mountsHere? name = some router.mounts :=
      congrArg (Option.map fun entry : Nat × Router => entry.2.mounts) hlocal
    refine ⟨?mounts, (hconsistent.mounts (Routing.local?_eq_some_iff.mp hlocal).2).1,
      htable.effectivePath_of_local? hlocal, ?accepted, ?refused, ?others⟩
    case mounts =>
      rw [hhere] at hmounts
      split at hmounts
      · exact Option.some.inj hmounts
      · cases hmounts
    case accepted =>
      intro call path hgiven
      have hanswer :=
        (Routing.transition_perform table call).answer_of_given? hconsistent hgiven
      rw [hhere, hbound] at hanswer
      exact hanswer
    case refused =>
      intro call hrefused
      rw [(Routing.transition_perform table call).eq_of_refused hrefused]
      exact hlocal
    case others =>
      intro call other hsubject hne
      rw [(Routing.transition_perform table call).local?_of_subject?_ne hconsistent hsubject
        (Ne.symm hne)]
      exact hlocal

/-- A router that may be mounted once takes the first proper path and none of the later ones. -/
theorem local_mounts_accumulate_once :
    noJoins.Sound Path.join ∧
      (after 1 noJoins (RouterCall.exportedTwice.take 6)).local? "api" =
        some (0, ⟨"api", "express", "a.js", ["/v1"], 1, true⟩) ∧
      RouterCall.givenSince "api" (RouterCall.exportedTwice.take 6) = ["/v1", "/", "/users"] ∧
      (after 1 noJoins (RouterCall.exportedTwice.take 6)).Accumulates 1 "api"
        (RouterCall.givenSince "api" (RouterCall.exportedTwice.take 6)) 0
        ⟨"api", "express", "a.js", ["/v1"], 1, true⟩ := by
  have hlocal : (after 1 noJoins (RouterCall.exportedTwice.take 6)).local? "api" =
      some (0, ⟨"api", "express", "a.js", ["/v1"], 1, true⟩) := by decide
  have hgiven : RouterCall.givenSince "api" (RouterCall.exportedTwice.take 6) =
      ["/v1", "/", "/users"] := by decide
  obtain ⟨-, haccumulates⟩ :=
    local_mounts_accumulate 1 sound_noJoins (RouterCall.exportedTwice.take 6) "api"
  exact ⟨sound_noJoins, hlocal, hgiven, haccumulates _ _ hlocal⟩

end RouterTable

end RouteAudit
