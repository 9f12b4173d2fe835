import RouteAudit.Proofs.DocumentReading

/-!
# Reading events field by field

An event is read one field after another, and refused at the first field that does not hold what it
has to hold. Almost all of these refusals tell of a defect. The exception are the fields in which
one of several names has to stand: a list or an object in them is looked up like a name, and that
is a fault of its own.
-/

namespace RouteAudit

/-! ## Steps that may fail -/

section Steps

variable {α β ε : Type}

/-- Two steps succeed exactly if the first one does, and the second one behind it. -/
theorem bind_eq_ok_iff {first : Except ε α} {next : α → Except ε β} {value : β} :
    first >>= next = .ok value ↔ ∃ found, first = .ok found ∧ next found = .ok value := by
  cases first <;> simp [bind, Except.bind]

/-- Two steps fail exactly if the first one does, or the second one behind it. -/
theorem bind_eq_error_iff {first : Except ε α} {next : α → Except ε β} {fault : ε} :
    first >>= next = .error fault ↔
      first = .error fault ∨ ∃ found, first = .ok found ∧ next found = .error fault := by
  cases first <;> simp [bind, Except.bind]

/-- Giving a value succeeds with this value. -/
theorem pure_eq_ok_iff {found value : α} :
    (pure found : Except ε α) = .ok value ↔ found = value := by
  simp [pure, Except.pure]

/-- Giving a value does not fail. -/
theorem pure_ne_error {found : α} {fault : ε} : (pure found : Except ε α) ≠ .error fault := nofun

/-- Reading items by themselves is reading them at their places. -/
theorem mapM_eq_mapM_zipIdx (read : α → Except ε β) (items : List α) :
    items.mapM read = items.zipIdx.mapM fun item => read item.1 := by
  have hitems : (items.zipIdx.map Prod.fst).mapM read =
      items.zipIdx.mapM (read ∘ Prod.fst) := List.mapM_map
  rwa [List.zipIdx_map_fst] at hitems

/-- Items are read exactly if each of them is. -/
theorem mapM_eq_ok_iff {read : α → Except ε β} {items : List α} {values : List β} :
    items.mapM read = .ok values ↔
      List.Forall₂ (fun item value => read item = .ok value) items values := by
  rw [mapM_eq_mapM_zipIdx]
  exact mapM_zipIdx_eq_ok_iff (fun item value => read item = .ok value) fun _ _ _ => Iff.rfl

/-- Items are refused for the first one that cannot be read. -/
theorem mapM_eq_error_iff {read : α → Except ε β} {items : List α} {fault : ε} :
    items.mapM read = .error fault ↔
      ∃ before item behind values, items = before ++ item :: behind ∧
        List.Forall₂ (fun item value => read item = .ok value) before values ∧
        read item = .error fault := by
  rw [mapM_eq_mapM_zipIdx]
  exact mapM_zipIdx_eq_error_iff (fun item value => read item = .ok value) fun _ _ _ => Iff.rfl

end Steps

/-! ## Lists and objects in place of names -/

/-- A field holds a list or an object. -/
def HoldsCompound (fields : Named Json) (name : String) (kind : Compound) : Prop :=
  ∃ given, fields.lookup name = some given ∧ given.compound? = some kind

/-- A list or an object in a field does not come from a default that is neither. -/
theorem compound?_getD_eq_some_iff {fields : Named Json} {name : String} {default : Json}
    {kind : Compound} (hdefault : default.compound? = none) :
    ((fields.lookup name).getD default).compound? = some kind ↔
      HoldsCompound fields name kind := by
  unfold HoldsCompound
  cases fields.lookup name with
  | none => simp [hdefault]
  | some given => simp

namespace Event

variable {fields : Named Json} {name : String} {kind : Compound} {item : Json}

/-- A missing text is a defect. -/
theorem requireText_ne_compound : requireText fields name ≠ .error (.compound kind) := by
  unfold requireText
  split <;> nofun

/-- What is no text, where there may be one, is a defect. -/
theorem optionalText_ne_compound : optionalText fields name ≠ .error (.compound kind) := by
  unfold optionalText
  split <;> nofun

/-- What is no callee is a defect. -/
theorem readCallee_ne_compound {given : Option Json} :
    readCallee given ≠ .error (.compound kind) := by
  intro hfault
  unfold readCallee at hfault
  split at hfault
  · simp only [bind_eq_error_iff, requireText_ne_compound, optionalText_ne_compound, pure_ne_error,
      and_false, exists_false, or_false] at hfault
  · cases hfault

/-- Choosing among several names fails on a list or an object exactly where one is given. -/
theorem oneOf_eq_compound_iff {α : Type} {find : String → Option α} {unknown : Json → Defect}
    {given : Json} :
    oneOf find unknown given = .error (.compound kind) ↔ given.compound? = some kind := by
  cases given with
  | string name => cases hfound : find name <;> simp [oneOf, Json.compound?, refuse, hfound]
  | _ => simp [oneOf, Json.compound?, refuse]

/-- Reading an argument fails on a list or an object exactly if this is its form. -/
theorem readArgument_eq_compound_iff :
    readArgument item = .error (.compound kind) ↔
      ∃ fields, item = .object fields ∧ HoldsCompound fields "kind" kind := by
  cases item with
  | object fields =>
    simp only [readArgument, bind_eq_error_iff, oneOf_eq_compound_iff, optionalText_ne_compound,
      pure_ne_error, and_false, exists_false, or_false, Json.object.injEq, exists_eq_left']
    exact compound?_getD_eq_some_iff rfl
  | _ => simp [readArgument, refuse]

/-- A value stands for an argument. -/
def ArgumentReads (item : Json) (argument : Argument) : Prop :=
  readArgument item = .ok argument

/-- Reading the creation of a router fails on a list or an object exactly if this is the framework.
-/
theorem readRouterCreated_eq_compound_iff :
    readRouterCreated fields = .error (.compound kind) ↔ HoldsCompound fields "framework" kind := by
  simp only [readRouterCreated, bind_eq_error_iff, oneOf_eq_compound_iff, requireText_ne_compound,
    readCallee_ne_compound, pure_ne_error, and_false, exists_false, or_false]
  exact compound?_getD_eq_some_iff rfl

/-- Reading the mounting of a router fails on a list or an object exactly if this is the form of an
argument, and the callee and the arguments before it are read. -/
theorem readMountAttempted_eq_compound_iff :
    readMountAttempted fields = .error (.compound kind) ↔
      ∃ callee before argument behind values, readCallee (fields.lookup "callee") = .ok callee ∧
        fields.lookup "arguments" = some (.array (before ++ .object argument :: behind)) ∧
        List.Forall₂ ArgumentReads before values ∧ HoldsCompound argument "kind" kind := by
  constructor
  · intro hfault
    unfold readMountAttempted at hfault
    split at hfault
    · next items hitems =>
      simp only [bind_eq_error_iff, readCallee_ne_compound, mapM_eq_error_iff,
        readArgument_eq_compound_iff, pure_ne_error, and_false, exists_false, or_false,
        false_or] at hfault
      obtain ⟨callee, hcallee, before, item, behind, values, rfl, hbefore, argument, rfl, hkind⟩ :=
        hfault
      refine ⟨callee, before, argument, behind, values, hcallee, ?_, hbefore, hkind⟩
      -- The default is an empty list, so the argument stands in the list that the field holds.
      cases harguments : fields.lookup "arguments" with
      | none => simp [harguments] at hitems
      | some given =>
        rw [harguments, Option.getD_some] at hitems
        rw [hitems]
    · cases hfault
  · rintro ⟨callee, before, argument, behind, values, hcallee, harguments, hbefore, hkind⟩
    unfold readMountAttempted
    simp only [harguments, Option.getD_some, bind_eq_error_iff, mapM_eq_error_iff]
    refine .inr ⟨callee, hcallee, .inl ?_⟩
    exact ⟨before, _, behind, values, rfl, hbefore,
      readArgument_eq_compound_iff.mpr ⟨argument, rfl, hkind⟩⟩

/-- What is no import is a defect. -/
theorem readRouterImported_ne_compound :
    readRouterImported fields ≠ .error (.compound kind) := by
  intro hfault
  simp only [readRouterImported, bind_eq_error_iff, requireText_ne_compound,
    optionalText_ne_compound, pure_ne_error, and_false, exists_false, or_false] at hfault

/-- What is no registration is a defect. -/
theorem readRouteRegistered_ne_compound :
    readRouteRegistered fields ≠ .error (.compound kind) := by
  intro hfault
  unfold readRouteRegistered at hfault
  split at hfault
  · simp only [bind_eq_error_iff, requireText_ne_compound, optionalText_ne_compound, pure_ne_error,
      and_false, exists_false, or_false] at hfault
  · cases hfault

/-- A list or an object stands where an event has to give one of several names, and what is read
before it is in order: it is the framework of a router, or the form of an argument of a mount. -/
inductive Misnames (kind : Compound) : Json → Prop where
  | framework {fields : Named Json} (htype : fields.lookup "type" = some (.string "router"))
      (hframework : HoldsCompound fields "framework" kind) : Misnames kind (.object fields)
  | argument {fields argument : Named Json} {before behind : List Json} {callee : Callee}
      {values : List Argument} (htype : fields.lookup "type" = some (.string "mount"))
      (hcallee : readCallee (fields.lookup "callee") = .ok callee)
      (harguments : fields.lookup "arguments" =
        some (.array (before ++ .object argument :: behind)))
      (hbefore : List.Forall₂ ArgumentReads before values)
      (hkind : HoldsCompound argument "kind" kind) : Misnames kind (.object fields)

/-- **Lists and objects in place of names.** Reading an event fails on a list or an object exactly
if one stands for the framework of a router or for the form of an argument of a mount. -/
theorem read_eq_compound_iff : read item = .error (.compound kind) ↔ Misnames kind item := by
  constructor
  · intro hfault
    unfold read at hfault
    split at hfault
    · next fields =>
      split at hfault
      · next htype => exact .framework htype (readRouterCreated_eq_compound_iff.mp hfault)
      · next htype =>
        obtain ⟨callee, before, argument, behind, values, hcallee, harguments, hbefore, hkind⟩ :=
          readMountAttempted_eq_compound_iff.mp hfault
        exact .argument htype hcallee harguments hbefore hkind
      · simp only [bind_eq_error_iff, requireText_ne_compound, pure_ne_error, and_false,
          exists_false, or_false] at hfault
      · exact absurd hfault readRouterImported_ne_compound
      · exact absurd hfault readRouteRegistered_ne_compound
      · cases hfault
    · cases hfault
  · intro hmisnames
    cases hmisnames with
    | framework htype hframework =>
      simp only [read, htype]
      exact readRouterCreated_eq_compound_iff.mpr hframework
    | argument htype hcallee harguments hbefore hkind =>
      simp only [read, htype]
      exact readMountAttempted_eq_compound_iff.mpr
        ⟨_, _, _, _, _, hcallee, harguments, hbefore, hkind⟩

end Event

end RouteAudit
