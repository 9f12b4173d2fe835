import RouteAudit.Command.Request
import RouteAudit.Proofs.LastEntries

/-!
# The settings of a check

The flags of a check are written into options one after another, over the values that hold where
none are given. Every flag sets an option of its own, so the options are told flag by flag. Only the
depth of mounts can be out of bounds; with any other flags the options are settings.
-/

namespace RouteAudit

namespace Command.CheckFlags

/-- The depth of mounts that flags ask for. -/
def depth (flags : CheckFlags) : Int :=
  flags.maxDepth.getD 5

/-- The settings that flags stand for, with a depth that is within bounds. -/
def settings (flags : CheckFlags) : Settings :=
  { Settings.default with
    level := flags.level.getD .relaxed
    keepConstraints := flags.keepConstraints
    warnOnOverlap := !flags.duplicatesOnly
    duplicates := flags.severity.getD .error
    maxDepth := flags.depth.toNat
    globalPath := flags.globalPath.filter (· ≠ "") }

/-- The value that flags give to an option. -/
def valueOf (flags : CheckFlags) : OptionName → Json
  | .level => .int (flags.level.getD .relaxed).number
  | .keepConstraints => .bool flags.keepConstraints
  | .warnOnOverlap => .bool !flags.duplicatesOnly
  | .severity => (flags.severity.getD .error).toOption
  | .maxDepth => .int flags.depth
  | .globalPrefix => ((flags.globalPath.filter (· ≠ "")).map Json.string).getD .null
  | .formCacheSize => .int 2000
  | .joinCacheSize => .int 1000
  | .debug => .bool flags.debug

/-- The option that a flag with a value sets. -/
theorem lookup_toList_map {α : Type} (given : Option α) (option name : OptionName)
    (write : α → Json) :
    ((given.map fun value => (option, write value)).toList.reverse).lookup name =
      if name = option then given.map write else none := by
  cases given with
  | none => simp
  | some value =>
    by_cases hname : name = option
    · simp [hname]
    · have hother : (name == option) = false := by simpa using hname
      simp [List.lookup_cons, hname, hother]

/-- The option that a flag without a value sets. -/
theorem lookup_ite (given : Bool) (option name : OptionName) (value : Json) :
    ((if given then [(option, value)] else []).reverse).lookup name =
      if name = option ∧ given then some value else none := by
  cases given with
  | false => simp
  | true =>
    by_cases hname : name = option
    · simp [hname]
    · have hother : (name == option) = false := by simpa using hname
      simp [List.lookup_cons, hname, hother]

/-- Every option is set by its own flag only. -/
theorem value_options (flags : CheckFlags) (name : OptionName) :
    flags.options.value name = flags.valueOf name := by
  unfold options entries
  rw [Options.value_foldl_set]
  simp only [List.reverse_append, List.lookup_append, lookup_toList_map, lookup_ite]
  cases name with
  | level => cases hgiven : flags.level <;> simp [valueOf, hgiven, Options.default, Level.number]
  | keepConstraints => cases hgiven : flags.keepConstraints <;>
      simp [valueOf, hgiven, Options.default]
  | warnOnOverlap => cases hgiven : flags.duplicatesOnly <;>
      simp [valueOf, hgiven, Options.default]
  | severity => cases hgiven : flags.severity <;>
      simp [valueOf, hgiven, Options.default, Severity.toOption]
  | maxDepth => cases hgiven : flags.maxDepth <;>
      simp [valueOf, depth, hgiven, Options.default]
  | globalPrefix => simp [valueOf, Options.default]
  | formCacheSize | joinCacheSize => simp [valueOf, Options.default]
  | debug => cases hgiven : flags.debug <;> simp [valueOf, hgiven, Options.default]

/-- The path in front of all routes, if it is given and not empty. -/
theorem globalPath?_valueOf (flags : CheckFlags) :
    Settings.globalPath? (flags.valueOf .globalPrefix) = flags.globalPath.filter (· ≠ "") := by
  unfold valueOf
  cases hgiven : flags.globalPath with
  | none => rfl
  | some path =>
    by_cases hpath : path = ""
    · rw [hpath]
      rfl
    · have hkept : (some path).filter (· ≠ "") = some path := by simp [Option.filter, hpath]
      simp only [hkept, Option.map_some, Option.getD_some, Settings.globalPath?, if_neg hpath]

/-- **The settings of a check.** Flags are settings exactly if the depth of mounts is between one
and ten. Otherwise the depth is their only problem. -/
theorem ofOptions_options (flags : CheckFlags) :
    Settings.ofOptions flags.options =
      if 1 ≤ flags.depth ∧ flags.depth ≤ 10 then .ok flags.settings
      else .error [.maxDepth (.int flags.depth)] := by
  have hlevel : Level.ofJson? (flags.valueOf .level) = some (flags.level.getD .relaxed) :=
    Level.ofJson?_number _
  have hseverity : Severity.ofOption? (flags.valueOf .severity) =
      some (flags.severity.getD .error) := Severity.ofOption?_toOption _
  have hdepth : Settings.depth? (flags.valueOf .maxDepth) =
      if 1 ≤ flags.depth ∧ flags.depth ≤ 10 then some flags.depth.toNat else none := rfl
  have hforms : Settings.cacheSize? (flags.valueOf .formCacheSize) = some ⟨2000, by decide⟩ := rfl
  have hjoins : Settings.cacheSize? (flags.valueOf .joinCacheSize) = some ⟨1000, by decide⟩ := rfl
  have hpath := flags.globalPath?_valueOf
  by_cases hbounds : 1 ≤ flags.depth ∧ flags.depth ≤ 10
  · rw [if_pos hbounds] at hdepth ⊢
    simp only [Settings.ofOptions, value_options, hlevel, hseverity, hdepth, hforms, hjoins, hpath]
    rfl
  · rw [if_neg hbounds] at hdepth ⊢
    simp only [Settings.ofOptions, Settings.problems, value_options, hlevel, hseverity, hdepth,
      hforms, hjoins]
    rfl

end Command.CheckFlags

end RouteAudit
