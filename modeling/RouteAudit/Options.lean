import RouteAudit.Json.Shown
import RouteAudit.Level
import RouteAudit.Whole

/-!
# Options of an audit

Options are nine named values. A mapping of names to values may spell a name in several ways and
may group options in a block; the last entry for an option counts. Valid options are settings.
-/

namespace RouteAudit

/-- The options there are. -/
inductive OptionName where
  | level
  | keepConstraints
  | warnOnOverlap
  | severity
  | maxDepth
  | globalPrefix
  | formCacheSize
  | joinCacheSize
  | debug
  deriving DecidableEq, Repr

namespace OptionName

/-- All options, in the order in which they are listed. -/
def all : List OptionName :=
  [level, keepConstraints, warnOnOverlap, severity, maxDepth, globalPrefix, formCacheSize,
    joinCacheSize, debug]

/-- The name of an option. -/
def text : OptionName → String
  | level => "normalization_level"
  | keepConstraints => "preserve_constraints"
  | warnOnOverlap => "warn_on_static_vs_dynamic"
  | severity => "severity"
  | maxDepth => "max_router_depth"
  | globalPrefix => "global_prefix"
  | formCacheSize => "normalization_cache_size"
  | joinCacheSize => "prefix_cache_size"
  | debug => "debug"

/-- The option of a name. -/
def ofText? (name : String) : Option OptionName :=
  all.find? fun option => option.text == name

/-- Every option is listed. -/
theorem mem_all (option : OptionName) : option ∈ all := by
  cases option <;> decide

/-- Every option is found by its name. -/
@[simp] theorem ofText?_text (option : OptionName) : ofText? option.text = some option := by
  cases option <;> decide

end OptionName

/-- A value for every option. -/
structure Options where
  value : OptionName → Json

namespace Options

/-- The options that hold where none are given. -/
def default : Options where
  value
    | .level => .int 1
    | .keepConstraints => .bool false
    | .warnOnOverlap => .bool true
    | .severity => .string "error"
    | .maxDepth => .int 5
    | .globalPrefix => .null
    | .formCacheSize => .int 2000
    | .joinCacheSize => .int 1000
    | .debug => .bool false

/-- The options with one of them changed. -/
def set (options : Options) (name : OptionName) (value : Json) : Options where
  value other := if other = name then value else options.value other

/-- Other spellings of the names of options. -/
def aliases : List (String × String) :=
  [("level", "normalization_level"),
    ("normalizationLevel", "normalization_level"),
    ("preserveConstraints", "preserve_constraints"),
    ("warnOnStaticVsDynamic", "warn_on_static_vs_dynamic"),
    ("maxRouterDepth", "max_router_depth"),
    ("globalPrefix", "global_prefix"),
    ("normalizationCacheSize", "normalization_cache_size"),
    ("prefixCacheSize", "prefix_cache_size")]

/-- The name that a spelling stands for. -/
def resolve (name : String) : String :=
  (aliases.lookup name).getD name

/-- The name of the block that groups options. -/
def blockName : String := "pathNormalization"

/-- The entries of a mapping under their proper names, a block replaced by its entries. Blocks
inside a block are entries like others. -/
def entries (fields : Named Json) : Named Json :=
  fields.flatMap fun (name, value) =>
    match value with
    | .object inner =>
        if name = blockName then inner.map fun (name, value) => (resolve name, value)
        else [(resolve name, value)]
    | _ => [(resolve name, value)]

/-- The names that are no options, each once, in the order of their characters. -/
def unknownNames (entries : Named Json) : List String :=
  ((entries.map Prod.fst).filter fun name => (OptionName.ofText? name).isNone).eraseDups.mergeSort
    fun a b => decide (a ≤ b)

/-- Sets one option after another; entries that are no options change nothing. -/
def setAll (options : Options) (entries : Named Json) : Options :=
  entries.foldl (fun options (name, value) =>
    match OptionName.ofText? name with
    | some option => options.set option value
    | none => options) options

/-- Names that are no options. -/
structure UnknownOptions where
  names : List String
  deriving DecidableEq, Repr

/-- The message for names that are no options. -/
def UnknownOptions.message (unknown : UnknownOptions) : String :=
  "Unknown configuration option(s): " ++ ", ".intercalate unknown.names

/-- The options that a mapping gives. -/
def ofFields (fields : Named Json) : Except UnknownOptions Options :=
  let entries := entries fields
  match unknownNames entries with
  | [] => .ok (default.setAll entries)
  | names => .error ⟨names⟩

end Options

end RouteAudit
