import RouteAudit.Options
import RouteAudit.Text.Numeral

/-!
# Settings of an audit

Options whose values make sense, as the values that they stand for.
-/

namespace RouteAudit

/-- How grave a finding is. -/
inductive Severity where
  | error
  | warning
  deriving DecidableEq, Repr

/-- The name of a severity in reports. -/
def Severity.label : Severity → String
  | error => "error"
  | warning => "warning"

/-- The severity that an option's value asks for. -/
def Severity.ofOption? : Json → Option Severity
  | .string "error" => some error
  | .string "warn" => some warning
  | _ => none

/-- The value of an option that asks for a severity. -/
def Severity.toOption : Severity → Json
  | error => .string "error"
  | warning => .string "warn"

/-- Every severity is found by the value that asks for it. -/
@[simp] theorem Severity.ofOption?_toOption (severity : Severity) :
    Severity.ofOption? severity.toOption = some severity := by
  cases severity <;> rfl

/-- Values that options must not have. -/
inductive OptionProblem where
  | level (given : Json)
  | maxDepth (given : Json)
  | severity (given : Json)
  | cacheSize (option : OptionName) (given : Json)

/-- A problem in words. -/
def OptionProblem.text : OptionProblem → String
  | level given => s!"normalization_level must be 0, 1 or 2 (got {given.shown})"
  | maxDepth given => s!"max_router_depth must be between 1 and 10 (got {given.shown})"
  | severity given => s!"severity must be 'error' or 'warn' (got {given.shown})"
  | cacheSize option given => s!"{option.text} must be a positive integer (got {given.shown})"

/-- The message for options with problems. -/
def OptionProblem.message (problems : List OptionProblem) : String :=
  "Invalid analysis configuration:\n  " ++ "\n  ".intercalate (problems.map text)

/-- A number as the name of a run. -/
def countedName (n : Nat) : String :=
  String.ofList (Text.hexDigits 32 n)

/-- What an audit goes by. -/
structure Settings where
  level : Level
  keepConstraints : Bool
  /-- Whether conflicts that are no duplicates are reported. -/
  warnOnOverlap : Bool
  /-- The severity of duplicates. -/
  duplicates : Severity
  maxDepth : Nat
  /-- The path in front of every route, if there is one. -/
  globalPath : Option String
  formCacheSize : Nat
  joinCacheSize : Nat
  formCacheSize_pos : 0 < formCacheSize
  joinCacheSize_pos : 0 < joinCacheSize
  /-- The names that are made up for runs without one, in turn. Whatever depends on such a name
  being new says so. -/
  runName : Nat → String := countedName

namespace Settings

/-- The settings with another supply of names for runs. -/
def naming (settings : Settings) (runName : Nat → String) : Settings :=
  { settings with runName }

/-- The depth that an option's value asks for. -/
def depth? (given : Json) : Option Nat :=
  match Whole.ofJson? given with
  | some whole => if 1 ≤ whole.toInt ∧ whole.toInt ≤ 10 then some whole.toInt.toNat else none
  | none => none

/-- The size of a cache that an option's value asks for. -/
def cacheSize? (given : Json) : Option { size : Nat // 0 < size } :=
  match Whole.ofJson? given with
  | some whole => if h : 0 < whole.toInt.toNat then some ⟨whole.toInt.toNat, h⟩ else none
  | none => none

/-- The path that an option's value puts in front of every route. -/
def globalPath? : Json → Option String
  | .string path => if path = "" then none else some path
  | _ => none

/-- The problems of options, option by option. -/
def problems (options : Options) : List OptionProblem :=
  let report {α : Type} (found : Option α) (problem : OptionProblem) : List OptionProblem :=
    if found.isSome then [] else [problem]
  let cacheReport (option : OptionName) : List OptionProblem :=
    report (cacheSize? (options.value option)) (.cacheSize option (options.value option))
  report (Level.ofJson? (options.value .level)) (.level (options.value .level)) ++
    report (depth? (options.value .maxDepth)) (.maxDepth (options.value .maxDepth)) ++
    report (Severity.ofOption? (options.value .severity)) (.severity (options.value .severity)) ++
    cacheReport .formCacheSize ++ cacheReport .joinCacheSize

/-- The settings that options stand for, or all their problems. -/
def ofOptions (options : Options) : Except (List OptionProblem) Settings :=
  match Level.ofJson? (options.value .level), depth? (options.value .maxDepth),
    Severity.ofOption? (options.value .severity), cacheSize? (options.value .formCacheSize),
    cacheSize? (options.value .joinCacheSize) with
  | some level, some maxDepth, some duplicates, some formCache, some joinCache =>
      .ok {
        level, maxDepth, duplicates
        keepConstraints := (options.value .keepConstraints).truthy
        warnOnOverlap := (options.value .warnOnOverlap).truthy
        globalPath := globalPath? (options.value .globalPrefix)
        formCacheSize := formCache.val
        joinCacheSize := joinCache.val
        formCacheSize_pos := formCache.property
        joinCacheSize_pos := joinCache.property }
  | _, _, _, _, _ => .error (problems options)

/-- The settings where no options are given. -/
def default : Settings where
  level := .relaxed
  keepConstraints := false
  warnOnOverlap := true
  duplicates := .error
  maxDepth := 5
  globalPath := none
  formCacheSize := 2000
  joinCacheSize := 1000
  formCacheSize_pos := by decide
  joinCacheSize_pos := by decide

/-- The values that options have where none are given make sense. -/
theorem ofOptions_default : ofOptions .default = .ok default := rfl

end Settings

end RouteAudit
