import RouteAudit.Command.Usage
import RouteAudit.Settings
import RouteAudit.Text.Integer

/-!
# Requests

What a command line asks for: a check of a document, under options that may be set by flags. The
arguments are taken one after another, and the first that cannot be taken or that asks for help
decides.
-/

namespace RouteAudit.Command

/-- The options that a command line sets. -/
structure CheckFlags where
  level : Option Level := none
  maxDepth : Option Int := none
  severity : Option Severity := none
  duplicatesOnly : Bool := false
  keepConstraints : Bool := false
  globalPath : Option String := none
  debug : Bool := false
  deriving DecidableEq, Repr

namespace CheckFlags

/-- Sets a flag. -/
def set (flags : CheckFlags) : Flag → CheckFlags
  | .duplicatesOnly => { flags with duplicatesOnly := true }
  | .keepConstraints => { flags with keepConstraints := true }
  | .debug => { flags with debug := true }

/-- The whole number that an option is given. -/
def readWhole (option : Valued) (given : String) : Except UsageFault Int :=
  match Text.readInteger? given with
  | some n => .ok n
  | none => .error (.notWhole option given)

/-- Gives an option its value. A repeated option keeps its last value. -/
def give (flags : CheckFlags) (option : Valued) (given : String) : Except UsageFault CheckFlags :=
  match option with
  | .level => do
      let n ← readWhole .level given
      match Level.ofJson? (.int n) with
      | some level => .ok { flags with level := some level }
      | none => .error (.noLevel n)
  | .maxDepth => do
      let n ← readWhole .maxDepth given
      return { flags with maxDepth := some n }
  | .severity =>
      match Severity.ofOption? (.string given) with
      | some severity => .ok { flags with severity := some severity }
      | none => .error (.noSeverity given)
  | .globalPath => .ok { flags with globalPath := some given }

/-- The values that the flags give to options of the audit. An empty path is not given. -/
def entries (flags : CheckFlags) : List (OptionName × Json) :=
  (flags.level.map fun level => (OptionName.level, Json.int level.number)).toList ++
    (flags.maxDepth.map fun depth => (OptionName.maxDepth, Json.int depth)).toList ++
    (flags.severity.map fun severity => (OptionName.severity, severity.toOption)).toList ++
    (if flags.duplicatesOnly then [(OptionName.warnOnOverlap, Json.bool false)] else []) ++
    (if flags.keepConstraints then [(OptionName.keepConstraints, Json.bool true)] else []) ++
    ((flags.globalPath.filter (· ≠ "")).map fun path =>
      (OptionName.globalPrefix, Json.string path)).toList ++
    (if flags.debug then [(OptionName.debug, Json.bool true)] else [])

/-- The options of the audit under the flags. -/
def options (flags : CheckFlags) : Options :=
  flags.entries.foldl (fun options (name, value) => options.set name value) .default

end CheckFlags

/-- A check that is asked for. -/
structure CheckRequest where
  flags : CheckFlags
  /-- The path of the document. -/
  path : String
  deriving DecidableEq, Repr

/-- Why a command line is not carried out. -/
inductive Refusal where
  /-- Help is asked for. -/
  | help (manual : Manual)
  | fault (manual : Manual) (fault : UsageFault)
  deriving DecidableEq, Repr

/-- What has come of the arguments of a check so far. -/
structure CheckReading where
  flags : CheckFlags := {}
  path : Option String := none
  /-- The arguments that nothing could be made of, in their order. -/
  unrecognized : List String := []
  deriving DecidableEq, Repr

namespace CheckReading

/-- Passes over an argument. -/
def skip (reading : CheckReading) (text : String) : CheckReading :=
  { reading with unrecognized := reading.unrecognized ++ [text] }

/-- Takes an operand: the first is the path of the document. -/
def takeOperand (reading : CheckReading) (text : String) : CheckReading :=
  match reading.path with
  | none => { reading with path := some text }
  | some _ => reading.skip text

/-- Gives an option its value. -/
def give (reading : CheckReading) (option : Valued) (given : String) :
    Except Refusal CheckReading :=
  match reading.flags.give option given with
  | .ok flags => .ok { reading with flags }
  | .error fault => .error (.fault .check fault)

/-- Takes an option that is not followed by a value. -/
def takeOption (reading : CheckReading) (option : CommandOption) (value : Option String) :
    Except Refusal CheckReading :=
  match option, value with
  | .valued option, some value => reading.give option value
  | .valued option, none => .error (.fault .check (.missingValue option))
  | option, some value => .error (.fault .check (.surplusValue option value))
  | .help, none => .error (.help .check)
  | .flag flag, none => .ok { reading with flags := reading.flags.set flag }

/-- Takes arguments one after another. The divider goes with the path of the document if it stands
next to it. -/
def takeAll (reading : CheckReading) : List Argument → Except Refusal CheckReading
  | [] => .ok reading
  | .option (.valued option) none :: .operand value :: rest => do
      let reading ← reading.give option value
      reading.takeAll rest
  | .option option value :: rest => do
      let reading ← reading.takeOption option value
      reading.takeAll rest
  | .unknown text :: rest => (reading.skip text).takeAll rest
  | .operand text :: .divider :: rest =>
      match reading.path with
      | none => (reading.takeOperand text).takeAll rest
      | some _ => ((reading.skip text).skip Argument.dividerText).takeAll rest
  | .operand text :: rest => (reading.takeOperand text).takeAll rest
  | .divider :: .operand text :: rest =>
      match reading.path with
      | none => (reading.takeOperand text).takeAll rest
      | some _ => ((reading.skip Argument.dividerText).skip text).takeAll rest
  | .divider :: rest => (reading.skip Argument.dividerText).takeAll rest

end CheckReading

namespace CheckRequest

/-- Refuses arguments that nothing could be made of. -/
def refuseUnrecognized (arguments : List String) : Except Refusal Unit :=
  if arguments.isEmpty then .ok () else .error (.fault .program (.unrecognized arguments))

/-- The check that the arguments behind the command ask for. Arguments that were passed over in
front of the command are given. -/
def ofArguments (skipped : List String) (texts : List String) : Except Refusal CheckRequest :=
  match Argument.ofTexts CommandOption.ofCheck texts with
  | .error ambiguity => .error (.fault .check (.ambiguous ambiguity))
  | .ok arguments => do
      let reading ← CheckReading.takeAll {} arguments
      match reading.path with
      | none => .error (.fault .check .missingPath)
      | some path =>
          refuseUnrecognized (skipped ++ reading.unrecognized)
          return ⟨reading.flags, path⟩

/-- The name of the command that checks a document. -/
def commandName : String := "check"

/-- Reads a command line, some arguments in front of the command having been passed over. A line
without a command asks for help. -/
def read (skipped : List String) : List String → Except Refusal CheckRequest
  | [] => do
      refuseUnrecognized skipped
      .error (.help .program)
  | text :: rest =>
      if text = Argument.dividerText then
        match rest with
        | [] => do
            refuseUnrecognized (skipped ++ [text])
            .error (.help .program)
        | _ => .error (.fault .program (.noCommand text))
      else
        match Argument.ofText CommandOption.ofProgram text with
        | .error ambiguity => .error (.fault .program (.ambiguous ambiguity))
        | .ok (.operand name) =>
            if name = commandName then ofArguments skipped rest
            else .error (.fault .program (.noCommand name))
        | .ok (.option option (some value)) =>
            .error (.fault .program (.surplusValue option value))
        | .ok (.option _ none) => .error (.help .program)
        | .ok _ => read (skipped ++ [text]) rest

/-- The check that a command line asks for. -/
def ofCommandLine (texts : List String) : Except Refusal CheckRequest :=
  read [] texts

end CheckRequest

end RouteAudit.Command
