import Mathlib.Tactic.IntervalCases
import RouteAudit.Proofs.AuditFaults
import RouteAudit.Proofs.AuditTables

/-!
# Accepted options

Options that are settings, with a truth value for the wish about constraints and with a text, if
anything, in front of every route. Their sizes and their depth pass every later check. So an audit
that works on them never meets a fault, if their level behaves like the number that it equals and if
the places of the routes can be written: every operation comes to what it comes to under the
settings. A level that only equals a number can be a fault.
-/

namespace RouteAudit

open Float.Model

/-! ## Values that pass a later check -/

/-- A float that equals zero is a zero. -/
theorem eq_zero_of_beq {x : UnpackedFloat} {sign : UnpackedFloat.Sign}
    (h : x.beq (.zero sign) = true) : ∃ sign', x = .zero sign' := by
  cases x with
  | zero sign' => exact ⟨sign', rfl⟩
  | notANumber => cases h
  | infinity sign' => cases sign' <;> cases h
  | finite sign' mantissa exponent hpos => cases sign' <;> cases h

/-- A float that equals a finite one above zero is itself finite and above zero. -/
theorem eq_finite_of_beq {x : UnpackedFloat} {mantissa : Nat} {exponent : Int}
    {hpos : 0 < mantissa} (h : x.beq (.finite .positive mantissa exponent hpos) = true) :
    ∃ mantissa' exponent' hpos', x = .finite .positive mantissa' exponent' hpos' := by
  cases x with
  | zero sign => cases h
  | notANumber => cases h
  | infinity sign => cases sign <;> cases h
  | finite sign mantissa' exponent' hpos' =>
    cases sign with
    | negative => cases h
    | positive => exact ⟨mantissa', exponent', hpos', rfl⟩

namespace Json

/-- A float is above zero exactly if its parts are. -/
theorem isPositive_float (x : Float) :
    (float x).isPositive = (UnpackedFloat.zero .positive).lt x.toModel.unpack := by
  have hzero : (0.0 : Float).toModel.unpack = .zero .positive := rfl
  rw [← hzero]
  exact Bool.decide_eq_true.trans Bool.decide_eq_true

/-- A value that equals the number of a level is above zero exactly if the level is not the raw
one. -/
theorem isPositive_of_isNumber {given : Json} {level : Level}
    (h : given.isNumber level.number = true) :
    given.isPositive = decide (level ≠ .raw) := by
  cases given with
  | int value =>
    obtain rfl : value = level.number := by simpa only [isNumber, beq_iff_eq] using h
    cases level <;> rfl
  | bool value => cases value <;> cases level <;> first | rfl | cases h
  | float x =>
    -- Floats are compared by their parts: sign, mantissa and exponent, or one of the special values.
    have hparts : x.toModel.unpack.beq (Float.ofInt level.number).toModel.unpack = true := h
    rw [isPositive_float]
    cases level with
    | raw =>
      obtain ⟨sign, hx⟩ := eq_zero_of_beq hparts
      rw [hx]
      rfl
    | relaxed | strict =>
      obtain ⟨mantissa, exponent, hpos, hx⟩ := eq_finite_of_beq hparts
      rw [hx]
      rfl
  | null | string | array | object => cases h

end Json

/-- A value that is found to be a level equals its number. -/
theorem Level.isNumber_of_ofJson? {given : Json} {level : Level} (h : ofJson? given = some level) :
    given.isNumber level.number = true := by
  unfold ofJson? at h
  exact List.find?_some (p := fun level : Level => given.isNumber level.number) h

/-- A value that is found to be a level is no list and no object. -/
theorem Level.ofJson_of_ofJson? {given : Json} {level : Level} (h : ofJson? given = some level) :
    ofJson given = .ok level := by
  have hnumber := isNumber_of_ofJson? h
  have hscalar : given.compound? = none := by
    cases given with
    | array | object => cases hnumber
    | _ => rfl
  simp only [ofJson, hscalar, h]

namespace LevelValue

/-- A value is found among the levels, and is above zero exactly if the number is that it equals. -/
structure IsPlain (given : LevelValue) : Prop where
  isMember : given.isMember = .ok true
  isAbove : given.isAbove = .ok (decide (given.level ≠ .raw))

/-- The number of a level behaves like itself. -/
theorem isPlain_ofLevel (level : Level) : (ofLevel level).IsPlain :=
  ⟨rfl, rfl⟩

/-- Whole numbers, truth values and floats behave like the number that they equal. -/
theorem isPlain_of_ofJson? {given : Json} {value : LevelValue} (h : ofJson? given = some value) :
    Level.ofJson? given = some value.level ∧ value.IsPlain := by
  obtain ⟨level, hlevel, rfl⟩ := Option.map_eq_some_iff.mp h
  refine ⟨hlevel, ⟨?_, ?_⟩⟩
  · rw [Level.ofJson_of_ofJson? hlevel]
  · rw [Json.isPositive_of_isNumber (Level.isNumber_of_ofJson? hlevel)]

variable {given : LevelValue}

/-- A level that behaves like a number passes the check for levels. -/
theorem tryLevel_eq (h : given.IsPlain) : given.tryLevel = .ok given.level := by
  rw [tryLevel, h.isMember]

/-- A level that behaves like a number can be compared with zero. -/
theorem tryPositive_eq (h : given.IsPlain) :
    given.tryPositive = .ok (decide (given.level ≠ .raw)) := by
  rw [tryPositive, h.isAbove]
  rfl

end LevelValue

/-- A whole number equals the number that it counts as. -/
theorem Whole.isNumber_eq {given : Json} {whole : Whole} (h : ofJson? given = some whole)
    (number : Int) : given.isNumber number = (whole.toInt == number) := by
  cases given with
  | int | bool =>
    cases h
    rfl
  | _ => cases h

/-- A depth that settings accept is in the list of depths that tables accept. -/
theorem RouterTable.create_of_depth {given : Json} {maxDepth : Nat}
    (h : Settings.depth? given = some maxDepth) (joins : Cache (List String) String) :
    create given joins = .ok { maxDepth, joins } := by
  have hfound : depths.find? (fun depth : Nat => given.isNumber depth) = some maxDepth := by
    unfold Settings.depth? at h
    split at h
    · next whole hwhole =>
      simp only [Whole.isNumber_eq hwhole]
      split at h
      · next hbounds =>
        obtain ⟨hlow, hhigh⟩ := hbounds
        cases h
        generalize whole.toInt = depth at hlow hhigh
        interval_cases depth <;> rfl
      · cases h
    · cases h
  rw [create, hfound]

/-- A size that settings accept is a capacity. -/
theorem Cache.tryCreate_of_size {κ α : Type} {given : Json} {size : { size : Nat // 0 < size }}
    (h : Settings.cacheSize? given = some size) :
    tryCreate given = .ok ({ capacity := size.val, capacity_pos := size.property } : Cache κ α) := by
  unfold Settings.cacheSize? at h
  split at h
  · next whole hwhole =>
    split at h
    · next hpos =>
      cases h
      rw [tryCreate, hwhole]
      change (create whole).mapError _ = _
      rw [create, dif_pos hpos]
      rfl
    · cases h
  · cases h

/-! ## Options that are accepted -/

/-- Options that stand for settings. The wish about constraints is a truth value, and what is put in
front of every route is a text, if anything. -/
structure LooseOptions.Accepted (given : LooseOptions) (settings : Settings) : Prop where
  settings : given.settings = .ok settings
  keepConstraints : ∃ keep, given.value .keepConstraints = .bool keep
  globalPrefix :
    given.value .globalPrefix = .null ∨ ∃ path, given.value .globalPrefix = .string path

namespace Settings

variable {options : Options} {settings : Settings}

/-- Settings have the values that options ask for. -/
structure Reads (settings : Settings) (options : Options) : Prop where
  level : Level.ofJson? (options.value .level) = some settings.level
  maxDepth : depth? (options.value .maxDepth) = some settings.maxDepth
  formCacheSize : cacheSize? (options.value .formCacheSize) =
    some ⟨settings.formCacheSize, settings.formCacheSize_pos⟩
  joinCacheSize : cacheSize? (options.value .joinCacheSize) =
    some ⟨settings.joinCacheSize, settings.joinCacheSize_pos⟩
  keepConstraints : settings.keepConstraints = (options.value .keepConstraints).truthy
  globalPath : settings.globalPath = globalPath? (options.value .globalPrefix)

/-- Options are settings only through the values that they ask for. -/
theorem reads_of_ofOptions (h : ofOptions options = .ok settings) : settings.Reads options := by
  unfold ofOptions at h
  split at h
  · next level maxDepth duplicates forms joins hlevel hdepth hseverity hforms hjoins =>
    cases h
    exact ⟨hlevel, hdepth, hforms, hjoins, rfl, rfl⟩
  · cases h

/-- Only the level that a value equals counts for the settings. -/
theorem ofOptions_set_level {level : Level}
    (h : Level.ofJson? (options.value .level) = some level) :
    ofOptions (options.set .level (.int level.number)) = ofOptions options := by
  have hset : ∀ name, name ≠ .level →
      (options.set .level (.int level.number)).value name = options.value name :=
    fun name hname => if_neg hname
  have hlevel : (options.set .level (.int level.number)).value .level = .int level.number := rfl
  unfold ofOptions problems
  simp only [hset _ (by decide : OptionName.maxDepth ≠ .level),
    hset _ (by decide : OptionName.severity ≠ .level),
    hset _ (by decide : OptionName.formCacheSize ≠ .level),
    hset _ (by decide : OptionName.joinCacheSize ≠ .level),
    hset _ (by decide : OptionName.keepConstraints ≠ .level),
    hset _ (by decide : OptionName.warnOnOverlap ≠ .level),
    hset _ (by decide : OptionName.globalPrefix ≠ .level), hlevel, Level.ofJson?_number, h]
  rfl

end Settings

namespace LooseOptions

/-- Options as they are given are accepted if they are settings, and their level behaves like the
number that it equals. -/
theorem exists_accepted {options : Options} {settings : Settings} {keep : Bool}
    (runName : Nat → String) (h : Settings.ofOptions options = .ok settings)
    (hkeep : options.value .keepConstraints = .bool keep)
    (hglobal : options.value .globalPrefix = .null ∨
      ∃ path, options.value .globalPrefix = .string path) :
    ∃ given, ofOptions? options runName = some given ∧
      given.Accepted (settings.naming runName) ∧ given.level.IsPlain := by
  have hlevel := (Settings.reads_of_ofOptions h).level
  obtain ⟨value, hvalue⟩ : ∃ value, LevelValue.ofJson? (options.value .level) = some value := by
    rw [LevelValue.ofJson?, hlevel]
    exact ⟨_, rfl⟩
  obtain ⟨hequals, hplain⟩ := LevelValue.isPlain_of_ofJson? hvalue
  refine ⟨⟨options, value, runName⟩, ?_, ⟨?_, ⟨keep, hkeep⟩, hglobal⟩, hplain⟩
  · rw [ofOptions?, hvalue]
    rfl
  · rw [LooseOptions.settings, Settings.ofOptions_set_level hequals, h]
    rfl

variable {given : LooseOptions} {settings : Settings}

/-- The settings of loose options have the values that the options ask for. -/
theorem reads_of_settings (h : given.settings = .ok settings) :
    settings.Reads (given.others.set .level (.int given.level.level.number)) := by
  unfold LooseOptions.settings at h
  cases hread : Settings.ofOptions (given.others.set .level (.int given.level.level.number)) with
  | error problems =>
    rw [hread] at h
    cases h
  | ok read =>
    rw [hread] at h
    cases h
    obtain ⟨hlevel, hdepth, hforms, hjoins, hkeep, hglobal⟩ := Settings.reads_of_ofOptions hread
    exact ⟨hlevel, hdepth, hforms, hjoins, hkeep, hglobal⟩

namespace Accepted

/-- The settings of accepted options have the values that the options ask for. -/
theorem reads (h : given.Accepted settings) :
    settings.Reads (given.others.set .level (.int given.level.level.number)) :=
  reads_of_settings h.settings

/-- The level of the settings is the one that is equalled. -/
theorem level_eq (h : given.Accepted settings) : given.level.level = settings.level := by
  have hlevel := h.reads.level
  simpa [Options.set] using hlevel

/-- The wish about constraints is what the settings say. -/
theorem keepConstraints_eq (h : given.Accepted settings) :
    given.value .keepConstraints = .bool settings.keepConstraints := by
  obtain ⟨keep, hkeep⟩ := h.keepConstraints
  have hwish : settings.keepConstraints = (given.value .keepConstraints).truthy :=
    h.reads.keepConstraints
  rw [hwish, hkeep]
  rfl

/-- A path is put below the path that the settings name. -/
theorem tryUnderGlobal_eq (h : given.Accepted settings) (path : String) :
    given.tryUnderGlobal path =
      .ok (match settings.globalPath with
        | some above => Path.join [above, path]
        | none => path) := by
  have hglobal : settings.globalPath = Settings.globalPath? (given.value .globalPrefix) :=
    h.reads.globalPath
  rw [hglobal]
  unfold LooseOptions.tryUnderGlobal
  rcases h.globalPrefix with hnull | ⟨above, htext⟩
  · rw [hnull]
    rfl
  · rw [htext]
    by_cases habove : above = ""
    · simp [Settings.globalPath?, habove]
    · simp [Settings.globalPath?, habove]

end Accepted

end LooseOptions

/-! ## Places that can be written -/

/-- The line and the column of a route can be written. -/
structure Route.IsPlaced (route : Route) : Prop where
  line : route.line.isLong = false
  column : route.column.isLong = false

/-- The line and the column of every route can be written, unless the route is passed over. -/
def Event.IsPlaced : Event → Prop
  | .routeRegistered registration => Text.allBlank registration.path = false →
      registration.line.isLong = false ∧ registration.column.isLong = false
  | _ => True

instance (event : Event) : Decidable event.IsPlaced :=
  match event with
  | .routeRegistered _ => inferInstanceAs (Decidable (_ → _))
  | .routerCreated _ _ _ | .mountAttempted _ _ | .routerExported _ | .routerImported _ _ _ =>
      inferInstanceAs (Decidable True)

/-- The places in a file can be written. -/
def SourceFile.IsPlaced (file : SourceFile) : Prop :=
  ∀ event ∈ file.events, event.IsPlaced

instance (file : SourceFile) : Decidable file.IsPlaced :=
  inferInstanceAs (Decidable (∀ event ∈ file.events, event.IsPlaced))

/-- The places in the files of a call can be written. -/
def Call.IsPlaced : Call → Prop
  | .run files _ _ => ∀ file ∈ files, file.IsPlaced
  | .processFile file => file.IsPlaced
  | _ => True

/-- The places in a ledger can be written. -/
def Ledger.IsPlaced (ledger : Ledger) : Prop :=
  ∀ route ∈ ledger.routes, route.IsPlaced

/-- A route whose place can be written is reported. -/
theorem Route.tryLocation_eq {route : Route} (h : route.IsPlaced) :
    route.tryLocation = .ok route.location := by
  rw [tryLocation, h.line, h.column]
  rfl

namespace Ledger.IsPlaced

variable {ledger : Ledger}

/-- Entering a route keeps the places in a ledger fit to be written. -/
theorem register (h : ledger.IsPlaced) {route : Route} (hroute : route.IsPlaced) :
    (ledger.register route).2.IsPlaced := by
  unfold Ledger.register
  split
  · exact h
  · intro other hother
    rcases List.mem_append.mp hother with hbefore | hnew
    · exact h other hbefore
    · exact List.mem_singleton.mp hnew ▸ hroute

/-- So does beginning a run. -/
theorem beginRun (h : ledger.IsPlaced) (runId : String) : (ledger.beginRun runId).IsPlaced := by
  unfold Ledger.beginRun
  split
  · exact h
  · exact nofun

/-- A route that is given back can be reported. -/
theorem of_register (h : ledger.IsPlaced) {route first : Route}
    (hfirst : (ledger.register route).1 = some first) : first.IsPlaced := by
  unfold Ledger.register at hfirst
  split at hfirst
  · next existing hfound =>
    cases hfirst
    exact h first (List.mem_of_find?_eq_some hfound)
  · cases hfirst

end Ledger.IsPlaced

/-! ## Operations without a fault -/

namespace Cache

variable {κ α : Type} [DecidableEq κ]

/-- A cache has an entry whenever one has to make room, since its capacity is positive. -/
theorem trySet_eq (cache : Cache κ α) (key : κ) (value : α) :
    cache.trySet key value = .ok (cache.set key value) := by
  unfold trySet set
  split
  · rfl
  · split
    · next hfull =>
      cases hentries : cache.entries with
      | nil =>
        have hpos := cache.capacity_pos
        simp only [size, hentries, List.length_nil] at hfull
        omega
      | cons oldest recent => rfl
    · rfl

/-- A missing value can be computed and stored. -/
theorem tryGetOrCompute_eq (cache : Cache κ α) (key : κ) (compute : Unit → α) :
    cache.tryGetOrCompute key compute = .ok (cache.getOrCompute key compute) := by
  unfold tryGetOrCompute getOrCompute
  rcases cache.get key with ⟨found, asked⟩
  cases found with
  | some value => rfl
  | none =>
    simp only [trySet_eq]
    rfl

end Cache

/-- Equally many segments can be compared in pairs. -/
theorem tryFirstClash?_eq {lefts rights : List Segment} (h : lefts.length = rights.length) :
    tryFirstClash? lefts rights = .ok (firstClash? lefts rights) := by
  induction lefts generalizing rights with
  | nil =>
    cases rights with
    | nil => rfl
    | cons right rest => cases h
  | cons left lefts ih =>
    cases rights with
    | nil => cases h
    | cons right rights =>
      rw [tryFirstClash?, firstClash?]
      cases Clash.of? left right with
      | some kind => rfl
      | none => exact ih (Nat.succ.inj h)

namespace Normalizer

variable {given : LevelValue}

/-- At a level that behaves like a number, and with a truth value about constraints, every path has
a form. -/
theorem tryNormalize_eq (normalizer : Normalizer) (path : String) (keep : Bool)
    (h : given.IsPlain) :
    normalizer.tryNormalize path given (.bool keep) =
      .ok (normalizer.normalize path given.level keep) := by
  unfold tryNormalize normalize
  simp only [LevelValue.tryLevel_eq h, bind, Except.bind]
  split
  · rfl
  · cases given.level with
    | raw => rfl
    | relaxed | strict =>
      simp only [Json.compound?, Cache.tryGetOrCompute_eq]
      rfl

/-- At a level that behaves like a number, every two paths can be compared. -/
theorem tryCompare_eq (normalizer : Normalizer) (left right : String) (h : given.IsPlain) :
    normalizer.tryCompare left right given = .ok (normalizer.compare left right given.level) := by
  unfold tryCompare compare Verdict.bySegments?
  by_cases hsame : left = right
  · simp only [if_pos hsame]
  · by_cases hlengths : (Segment.ofPath left).length = (Segment.ofPath right).length
    · simp only [if_neg hsame, hlengths, ne_eq, not_true, if_false, tryFirstClash?_eq hlengths]
      cases firstClash? (Segment.ofPath left) (Segment.ofPath right) with
      | some clash => rfl
      | none =>
        simp only [bind, Except.bind, LevelValue.tryPositive_eq h, tryNormalize_eq _ _ _ h]
        cases given.level <;> rfl
    · simp only [if_neg hsame, ne_eq, hlengths, not_false_eq_true, if_true]

end Normalizer

namespace Routing

/-- A call with two arguments or more has a first and a second one. -/
theorem tryMountOf?_eq (callee : Callee) (arguments : List Argument) :
    tryMountOf? callee arguments = .ok (mountOf? callee arguments) := by
  unfold tryMountOf? mountOf?
  rcases arguments with - | ⟨path, - | ⟨router, rest⟩⟩
  · rw [if_pos (by simp)]
  · rw [if_pos (by simp)]
  · cases callee.receiver with
    | none =>
      rw [if_pos (.inl rfl)]
      rfl
    | some receiver =>
      by_cases huse : callee.name = "use"
      · rw [if_neg (by simp [huse])]
        simp only [Option.isSome_some, huse, and_self, if_true]
        rfl
      · rw [if_pos (.inr (.inl huse))]
        simp only [huse, and_false, if_false]

/-- What a call contributes can be told from any call. -/
theorem tryDetectMount_eq (routing : Routing) (callee : Callee) (arguments : List Argument) :
    routing.tryDetectMount callee arguments = .ok (routing.detectMount callee arguments) := by
  rw [tryDetectMount, tryMountOf?_eq]
  rfl

/-- A router can be mounted, or left, by any call. -/
theorem tryMount_eq (routing : Routing) (callee : Callee) (arguments : List Argument) :
    routing.tryMount callee arguments = .ok (routing.mount callee arguments) := by
  rw [tryMount, tryDetectMount_eq, mount]
  rcases hvalue : (routing.detectMount callee arguments).value with
    - | ⟨- | target, - | path⟩ <;> simp only [hvalue, bind, Except.bind] <;> rfl

end Routing

namespace RouterTable

/-- A router can be mounted, or left, by any call. -/
theorem tryMount_eq (table : RouterTable) (callee : Callee) (arguments : List Argument) :
    table.tryMount callee arguments = .ok (table.mount callee arguments) := by
  rw [tryMount, Routing.tryMount_eq]
  rfl

/-- Any mounts can be joined. -/
theorem tryJoinMounts_eq (table : RouterTable) (mounts : List String) :
    table.tryJoinMounts mounts = .ok (table.joinMounts mounts) := by
  unfold tryJoinMounts joinMounts
  split
  · rfl
  · rw [Cache.tryGetOrCompute_eq]
    rfl

/-- Any name can be resolved through the exports. -/
theorem tryResolveExported_eq (table : RouterTable) (name : String) :
    table.tryResolveExported name = .ok (table.resolveExported name) := by
  unfold tryResolveExported resolveExported
  cases table.exportsOf name with
  | nil => rfl
  | cons first more =>
    simp only [tryJoinMounts_eq]
    cases more <;> rfl

/-- Any name can be resolved. -/
theorem tryEffectivePath_eq (table : RouterTable) (name : String) :
    table.tryEffectivePath name = .ok (table.effectivePath name) := by
  unfold tryEffectivePath effectivePath
  cases table.local? name with
  | none => exact table.tryResolveExported_eq name
  | some found =>
    simp only [tryJoinMounts_eq]
    rfl

end RouterTable

namespace Audit

variable {given : LooseOptions} {settings : Settings} {audit : Audit}

/-- Options that are settings make the audit that the settings make. -/
theorem tryCreate_eq (h : given.settings = .ok settings) :
    tryCreate given = .ok (ofSettings settings) := by
  have hreads := LooseOptions.reads_of_settings h
  have hforms : Settings.cacheSize? (given.value .formCacheSize) = _ := hreads.formCacheSize
  have hjoins : Settings.cacheSize? (given.value .joinCacheSize) = _ := hreads.joinCacheSize
  have hdepth : Settings.depth? (given.value .maxDepth) = _ := hreads.maxDepth
  rw [tryCreate, h, Cache.tryCreate_of_size hforms, RouterTable.tryCreate,
    Cache.tryCreate_of_size hjoins]
  simp only [bind, Except.bind, Except.mapError, RouterTable.create_of_depth hdepth]
  rfl

/-- Options that are no settings make no audit: their problems are the first fault. -/
theorem tryCreate_eq_error {problems : List OptionProblem} (h : given.settings = .error problems) :
    tryCreate given = .error (.options problems) := by
  rw [tryCreate, h]
  rfl

/-- An audit goes by options that it was made for, with a level that behaves like a number, and can
write the places in its ledger. -/
structure GoesBy (audit : Audit) (given : LooseOptions) : Prop where
  accepted : given.Accepted audit.settings
  level : given.level.IsPlain
  placed : audit.ledger.IsPlaced

/-- A new audit goes by the options that it is made for: its ledger is empty. -/
theorem goesBy_ofSettings (h : given.Accepted settings) (hlevel : given.level.IsPlain) :
    (ofSettings settings).GoesBy given :=
  ⟨h, hlevel, fun _ hroute => absurd hroute List.not_mem_nil⟩

/-- An audit with the same settings and the same ledger goes by the same options. -/
theorem GoesBy.of_eq {next : Audit} (h : audit.GoesBy given)
    (hsettings : next.settings = audit.settings) (hledger : next.ledger = audit.ledger) :
    next.GoesBy given :=
  ⟨hsettings ▸ h.accepted, h.level, hledger ▸ h.placed⟩

/-- The path of any registration can be resolved. -/
theorem tryEffectivePath_eq (h : audit.GoesBy given) (registration : Registration) :
    audit.tryEffectivePath given registration = .ok (audit.effectivePath registration) := by
  unfold tryEffectivePath effectivePath
  cases registration.router with
  | none =>
    simp only [h.accepted.tryUnderGlobal_eq]
    rfl
  | some router =>
    simp only [RouterTable.tryEffectivePath_eq, h.accepted.tryUnderGlobal_eq, bind, Except.bind]
    cases (audit.table.effectivePath router).value <;> rfl

/-- The entry of a registration is placed like it. -/
theorem isPlaced_routeOf (audit : Audit) (file : String) {registration : Registration}
    (hline : registration.line.isLong = false) (hcolumn : registration.column.isLong = false) :
    (audit.routeOf file registration).value.IsPlaced :=
  ⟨hline, hcolumn⟩

/-- Making an entry leaves the settings as they are. -/
theorem settings_routeOf (audit : Audit) (file : String) (registration : Registration) :
    (audit.routeOf file registration).state.settings = audit.settings :=
  (audit.follows_effectivePath registration).settings

/-- The entry of a registration can be made if its place can be written. -/
theorem tryRouteOf_eq (h : audit.GoesBy given) (file : String) {registration : Registration}
    (hplaced : (audit.routeOf file registration).value.IsPlaced) :
    audit.tryRouteOf given file registration = .ok (audit.routeOf file registration) := by
  have hsettings := (audit.follows_effectivePath registration).settings
  have hform := (audit.effectivePath registration).state.normalizer.tryNormalize_eq
    (audit.effectivePath registration).value audit.settings.keepConstraints h.level
  have hlocation := Route.tryLocation_eq hplaced
  unfold tryRouteOf
  unfold routeOf at hlocation ⊢
  simp only [tryEffectivePath_eq h, h.accepted.keepConstraints_eq, bind, Except.bind, hform,
    hsettings, h.accepted.level_eq] at hlocation ⊢
  rw [hlocation]
  rfl

/-- No entry can be made for a registration whose place cannot be written. -/
theorem tryRouteOf_eq_digits (h : audit.GoesBy given) (file : String) {registration : Registration}
    (hlong : (registration.line.isLong || registration.column.isLong) = true) :
    audit.tryRouteOf given file registration = .error .digits := by
  have hform := (audit.effectivePath registration).state.normalizer.tryNormalize_eq
    (audit.effectivePath registration).value audit.settings.keepConstraints h.level
  unfold tryRouteOf
  simp only [tryEffectivePath_eq h, h.accepted.keepConstraints_eq, bind, Except.bind, hform,
    Route.tryLocation, hlong, if_true]

/-- A route can be compared with an earlier one if both places can be written. -/
theorem tryCollide_eq (h : audit.GoesBy given) {route first : Route} (hroute : route.IsPlaced)
    (hfirst : first.IsPlaced) :
    audit.tryCollide given route first = .ok (audit.collide route first) := by
  unfold tryCollide collide
  simp only [Normalizer.tryCompare_eq _ _ _ h.level, h.accepted.level_eq, bind, Except.bind,
    Route.tryLocation_eq hroute, Route.tryLocation_eq hfirst]
  rfl

/-- A route can be entered if its place can be written, and the audit goes on by the options. -/
theorem tryRegister_eq (h : audit.GoesBy given) (file : String) {registration : Registration}
    (hplaced : (Event.routeRegistered registration).IsPlaced) :
    audit.tryRegister given file registration = .ok (audit.register file registration) ∧
      (audit.register file registration).state.GoesBy given := by
  unfold tryRegister register
  split
  · exact ⟨rfl, h⟩
  · next hblank =>
    obtain ⟨hline, hcolumn⟩ := hplaced (by simpa using hblank)
    have hroute := audit.isPlaced_routeOf file hline hcolumn
    have hmade : (audit.routeOf file registration).state.GoesBy given :=
      h.of_eq (audit.settings_routeOf file registration) (audit.ledger_routeOf file registration)
    simp only [tryRouteOf_eq h file hroute, bind, Except.bind]
    rcases hentered : (audit.routeOf file registration).state.ledger.register
      (audit.routeOf file registration).value with ⟨existing, ledger⟩
    have hledger := hmade.placed.register hroute
    rw [hentered] at hledger
    have hnext : { (audit.routeOf file registration).state with ledger : Audit }.GoesBy given :=
      ⟨hmade.accepted, hmade.level, hledger⟩
    cases existing with
    | none => exact ⟨rfl, hnext⟩
    | some first =>
      have hfirst := hmade.placed.of_register (congrArg Prod.fst hentered)
      simp only [tryCollide_eq hnext hroute hfirst]
      exact ⟨rfl, hnext.of_eq rfl rfl⟩

/-- A route whose place cannot be written is a fault, unless its path is blank. -/
theorem tryRegister_eq_digits (h : audit.GoesBy given) (file : String)
    {registration : Registration} (hpath : Text.allBlank registration.path = false)
    (hlong : (registration.line.isLong || registration.column.isLong) = true) :
    audit.tryRegister given file registration = .error .digits := by
  rw [tryRegister, if_neg (by simp [hpath]), tryRouteOf_eq_digits h file hlong]
  rfl

/-- An event can be taken if its place can be written, and the audit goes on by the options. -/
theorem tryTake_eq (h : audit.GoesBy given) (file : String) {event : Event}
    (hplaced : event.IsPlaced) :
    audit.tryTake given file event = .ok (audit.take file event) ∧
      (audit.take file event).state.GoesBy given := by
  cases event with
  | mountAttempted callee arguments =>
    simp only [tryTake, RouterTable.tryMount_eq, take, List.append_nil]
    exact ⟨rfl, h.of_eq rfl rfl⟩
  | routeRegistered registration => exact tryRegister_eq h file hplaced
  | _ => exact ⟨rfl, h.of_eq rfl rfl⟩

/-- Events can be taken if their places can be written. -/
theorem tryTakeAll_eq (h : audit.GoesBy given) (file : String) {events : List Event}
    (hplaced : ∀ event ∈ events, event.IsPlaced) :
    audit.tryTakeAll given file events = .ok (audit.takeAll file events) ∧
      (audit.takeAll file events).state.GoesBy given := by
  induction events generalizing audit with
  | nil => exact ⟨rfl, h⟩
  | cons event rest ih =>
    obtain ⟨hevent, hrest⟩ := List.forall_mem_cons.mp hplaced
    obtain ⟨htake, hnext⟩ := tryTake_eq h file hevent
    obtain ⟨htakeAll, hlast⟩ := ih hnext hrest
    simp only [tryTakeAll, takeAll, htake, bind, Except.bind, htakeAll]
    exact ⟨rfl, hlast⟩

/-- A file can be taken if its places can be written. -/
theorem tryProcessFile_eq (h : audit.GoesBy given) {file : SourceFile} (hplaced : file.IsPlaced) :
    audit.tryProcessFile given file = .ok (audit.processFile file) ∧
      (audit.processFile file).state.GoesBy given := by
  have hbegun :
      { audit with table := (audit.table.beginFile file.path).state : Audit }.GoesBy given :=
    h.of_eq rfl rfl
  obtain ⟨htaken, hlast⟩ := tryTakeAll_eq hbegun file.path hplaced
  simp only [tryProcessFile, htaken]
  exact ⟨rfl, hlast⟩

/-- Files can be taken if their places can be written. -/
theorem tryProcessFiles_eq (h : audit.GoesBy given) (stop : Nat → Bool) (done : Nat)
    {files : List SourceFile} (hplaced : ∀ file ∈ files, file.IsPlaced) :
    audit.tryProcessFiles given stop done files = .ok (audit.processFiles stop done files) ∧
      (audit.processFiles stop done files).state.GoesBy given := by
  induction files generalizing audit done with
  | nil => exact ⟨rfl, h⟩
  | cons file rest ih =>
    obtain ⟨hfile, hrest⟩ := List.forall_mem_cons.mp hplaced
    obtain ⟨hone, hnext⟩ := tryProcessFile_eq h hfile
    obtain ⟨hothers, hlast⟩ := ih hnext (done + 1) hrest
    unfold tryProcessFiles processFiles
    split
    · exact ⟨rfl, h⟩
    · simp only [hone, bind, Except.bind, hothers]
      exact ⟨rfl, hlast⟩

/-- A run goes on by the options that its audit goes by. -/
theorem GoesBy.beginRun (h : audit.GoesBy given) (runId : Option String) :
    (audit.beginRun runId).state.GoesBy given := by
  refine ⟨(audit.follows_beginRun runId).settings ▸ h.accepted, h.level, ?_⟩
  have hnamed : (audit.nameRun runId).2.ledger = audit.ledger := by
    unfold nameRun
    split
    · split
      · rfl
      · rfl
    · rfl
  unfold Audit.beginRun
  rcases hname : audit.nameRun runId with ⟨name, named⟩
  have hplaced : named.ledger.IsPlaced := by
    rw [hname] at hnamed
    exact hnamed ▸ h.placed
  simp only
  split
  · exact hplaced
  · exact hplaced.beginRun name

/-- A run can be made over files whose places can be written. -/
theorem tryRun_eq (h : audit.GoesBy given) {files : List SourceFile} (runId : Option String)
    (stop : Nat → Bool) (hplaced : ∀ file ∈ files, file.IsPlaced) :
    audit.tryRun given files runId stop = .ok (audit.run files runId stop) ∧
      (audit.run files runId stop).state.GoesBy given := by
  obtain ⟨hfiles, hlast⟩ := tryProcessFiles_eq (h.beginRun runId) stop 0 hplaced
  simp only [tryRun, hfiles]
  exact ⟨rfl, hlast⟩

/-- A call can be answered if the places in its files can be written. -/
theorem tryPerform_eq (h : audit.GoesBy given) {call : Call} (hplaced : call.IsPlaced) :
    audit.tryPerform given call = .ok (audit.perform call) ∧
      (audit.perform call).2.GoesBy given := by
  cases call with
  | run files runId stop =>
    obtain ⟨hrun, hlast⟩ := tryRun_eq h runId stop hplaced
    simp only [tryPerform, hrun]
    exact ⟨rfl, hlast⟩
  | processFile file =>
    obtain ⟨hfile, hlast⟩ := tryProcessFile_eq h hplaced
    simp only [tryPerform, hfile]
    exact ⟨rfl, hlast⟩
  | normalize path level keepConstraints =>
    simp only [tryPerform, Normalizer.tryNormalize_eq _ _ _ (LevelValue.isPlain_ofLevel level)]
    exact ⟨rfl, h.of_eq rfl rfl⟩
  | effectivePath name =>
    simp only [tryPerform, RouterTable.tryEffectivePath_eq]
    exact ⟨rfl, h.of_eq rfl rfl⟩
  | beginRun runId => exact ⟨rfl, h.beginRun runId⟩
  | routes => exact ⟨rfl, h⟩

/-- Calls can be answered if the places in their files can be written. -/
theorem tryPerformAll_eq (h : audit.GoesBy given) {calls : List Call}
    (hplaced : ∀ call ∈ calls, call.IsPlaced) :
    audit.tryPerformAll given calls = .ok (audit.performAll calls) := by
  induction calls generalizing audit with
  | nil => rfl
  | cons call rest ih =>
    obtain ⟨hcall, hrest⟩ := List.forall_mem_cons.mp hplaced
    obtain ⟨hperform, hnext⟩ := tryPerform_eq h hcall
    simp only [tryPerformAll, performAll, hperform, bind, Except.bind, ih hnext hrest]
    rfl

/-- **Accepted options do not fail.** Options that stand for settings make an audit. Whatever it is
asked for in turn, over any files and with any signal to stop, no operation meets a fault, provided
that the level behaves like the number that it equals and that the lines and columns of the routes
can be written: all answers and the last state are those of the audit that goes by the settings. -/
theorem accepted_options_never_fail (h : given.Accepted settings) :
    tryCreate given = .ok (ofSettings settings) ∧
      (given.level.IsPlain → ∀ calls : List Call, (∀ call ∈ calls, call.IsPlaced) →
        (ofSettings settings).tryPerformAll given calls =
          .ok ((ofSettings settings).performAll calls)) :=
  ⟨tryCreate_eq h.settings, fun hlevel _ => tryPerformAll_eq (goesBy_ofSettings h hlevel)⟩

/-- A float for the level, truth values for the depth and for a size, and a path in front. -/
def unusualOptions : Options where
  value
    | .level => .float 1.0
    | .keepConstraints => .bool true
    | .maxDepth => .bool true
    | .globalPrefix => .string "/api"
    | .formCacheSize => .bool true
    | .joinCacheSize => .int 1
    | other => Options.default.value other

/-- What the unusual options stand for. -/
def unusualSettings : Settings :=
  { Settings.default with
    keepConstraints := true
    maxDepth := 1
    globalPath := some "/api"
    formCacheSize := 1
    joinCacheSize := 1
    formCacheSize_pos := Nat.one_pos
    joinCacheSize_pos := Nat.one_pos }

/-- A call that mounts a router. -/
def useCall (arguments : List Argument) : Event :=
  .mountAttempted { name := "use", receiver := some "app" } arguments

/-- A file with a router that is mounted too often, mounts without a path, without a router and
without arguments, a router that is never created, and a route that is registered again under
another name of its parameter. -/
def unusualFile : SourceFile where
  path := "a.js"
  events :=
    [.routerCreated "api" { name := "Router" } "express",
      .routerExported "missing",
      useCall [],
      useCall [⟨.template, some "/v0", true⟩, ⟨.identifier, some "api", false⟩],
      useCall [⟨.literal, none, false⟩, ⟨.identifier, none, false⟩],
      useCall [⟨.literal, some "/v1", false⟩, ⟨.identifier, some "missing", false⟩],
      useCall [⟨.literal, some "/v1", false⟩, ⟨.identifier, some "api", false⟩],
      useCall [⟨.literal, some "/v2", false⟩, ⟨.identifier, some "api", false⟩],
      .routeRegistered { method := "get", path := "/:id", router := some "api" },
      .routeRegistered { method := "get", path := "/:name", router := some "api" },
      .routeRegistered { method := "get", path := "/:id", router := some "missing" }]

/-- The file is taken outside of any run, in a run, and again in a run that is stopped. -/
def unusualCalls : List Call :=
  [.processFile unusualFile, .run [unusualFile] none never, .beginRun (some "two"),
    .run [unusualFile, unusualFile] (some "two") fun done => decide (done = 1)]

/-- Unusual options make an audit that takes an unusual file three times and finds something each
time. -/
theorem accepted_options_never_fail_unusual :
    ∃ given, LooseOptions.ofOptions? unusualOptions countedName = some given ∧
      given.Accepted unusualSettings ∧
      given.level.IsPlain ∧ (∀ call ∈ unusualCalls, call.IsPlaced) ∧
      tryCreate given = .ok (ofSettings unusualSettings) ∧
      (ofSettings unusualSettings).tryPerformAll given unusualCalls =
        .ok ((ofSettings unusualSettings).performAll unusualCalls) ∧
      ((answers unusualSettings unusualCalls).flatMap Answer.allFindings).map (·.verdict) =
        [.renamed, .renamed, .renamed] := by
  have hsettings : Settings.ofOptions unusualOptions = .ok unusualSettings := rfl
  obtain ⟨given, hgiven, haccepted, hlevel⟩ :=
    LooseOptions.exists_accepted countedName hsettings rfl (.inr ⟨"/api", rfl⟩)
  have hfile : unusualFile.IsPlaced := by decide +kernel
  have hcalls : ∀ call ∈ unusualCalls, call.IsPlaced := by
    simp [unusualCalls, Call.IsPlaced, hfile]
  obtain ⟨hcreate, hperform⟩ := accepted_options_never_fail haccepted
  exact ⟨given, hgiven, haccepted, hlevel, hcalls, hcreate, hperform hlevel unusualCalls hcalls,
    by decide +kernel⟩

/-- A value that equals the relaxed level and is found among the levels, but has no order. -/
def unordered : LevelValue where
  level := .relaxed
  isMember := .ok true
  isAbove := .error "'>' not supported between instances of 'complex' and 'int'"

/-- Not all accepted options are free of faults: a level without an order fails where two names of a
parameter are to be told apart. -/
theorem not_forall_accepted_never_fail :
    ¬∀ (given : LooseOptions) (settings : Settings) (calls : List Call), given.Accepted settings →
      (ofSettings settings).tryPerformAll given calls =
        .ok ((ofSettings settings).performAll calls) := by
  intro h
  have haccepted : LooseOptions.Accepted ⟨.default, unordered, countedName⟩ .default :=
    ⟨rfl, ⟨false, rfl⟩, .inl rfl⟩
  have hfails : ((ofSettings .default).tryPerformAll ⟨.default, unordered, countedName⟩
      [.run renamedTwice (some "one") never]).isOk = false := by
    decide +kernel
  rw [h _ _ _ haccepted] at hfails
  cases hfails

end Audit

end RouteAudit
