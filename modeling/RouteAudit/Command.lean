import RouteAudit.Audit
import RouteAudit.Command.Request
import RouteAudit.EventFile

/-!
# The command line

What a command line comes to: the texts that are written, and the status at the end. Checking a
document prints the summary of an audit, and fails if that finds errors.
-/

namespace RouteAudit.Command

/-- What a command leaves. -/
structure Outcome where
  /-- Zero for success. -/
  status : Nat
  /-- What is printed. -/
  output : String := ""
  /-- What is reported beside that. -/
  reports : String := ""
  deriving DecidableEq, Repr

namespace Outcome

/-- The outcome of a command line that is not carried out. -/
def ofRefusal : Refusal → Outcome
  | .help manual => { status := 0, output := manual.help }
  | .fault manual fault =>
      { status := 2, reports := manual.usage ++ s!"{manual.name}: error: {fault.message}\n" }

/-- The outcome of a check that cannot be made. -/
def unusable (message : String) : Outcome :=
  { status := 1, reports := s!"Error: {message}\n" }

end Outcome

/-- A report as it is written: everything with its source for debugging, else warnings alone. -/
def reportText (debug : Bool) (entry : LogEntry) : String :=
  if debug then s!"[{entry.source.label}] {entry.message}\n"
  else if entry.level = .warning then entry.message ++ "\n"
  else ""

/-- The outcome of an audit of files. -/
def analyse (settings : Settings) (debug : Bool) (files : List SourceFile) : Outcome :=
  let run := (Audit.ofSettings settings).run files none Audit.never
  { status := if run.value.ok then 0 else 1
    output := run.value.summary ++ "\n"
    reports := String.join (run.log.map (reportText debug)) }

/-- Why a command line comes to no outcome. -/
inductive Failure where
  /-- Reading the document failed in a way that is no outcome of a check. -/
  | load (fault : LoadFault)
  /-- The output has no form for what is printed. -/
  | unprintable (message : String)

/-- The message for a command line that comes to no outcome. -/
def Failure.message : Failure → String
  | load fault => fault.message
  | unprintable message => message

/-- An outcome, if the output has a form for what is printed. -/
def Outcome.print (machine : Machine) (outcome : Outcome) : Except Failure Outcome :=
  if outcome.output = "" then .ok outcome
  else match machine.printingError? outcome.output with
    | some message => .error (.unprintable message)
    | none => .ok outcome

/-- The outcome of a check under given settings, its document having been read. -/
def conclude (machine : Machine) (settings : Settings) (debug : Bool)
    (document : Except LoadFault (List SourceFile)) : Except Failure Outcome :=
  match document with
  | .ok files => (analyse (settings.naming machine.runName) debug files).print machine
  | .error fault =>
      if fault.isForeseen then .ok (.unusable fault.message) else .error (.load fault)

/-- What is to be done for a command line. -/
inductive Plan where
  | finish (outcome : Outcome)
  /-- The document at a path is to be checked. -/
  | check (settings : Settings) (debug : Bool) (path : String)

namespace Plan

/-- What is to be done for a check. -/
def ofRequest (request : CheckRequest) : Plan :=
  match Settings.ofOptions request.flags.options with
  | .error problems => .finish (.unusable (OptionProblem.message problems))
  | .ok settings => .check settings request.flags.debug request.path

/-- What is to be done for a command line. -/
def ofCommandLine (arguments : List String) : Plan :=
  match CheckRequest.ofCommandLine arguments with
  | .error refusal => .finish (.ofRefusal refusal)
  | .ok request => ofRequest request

/-- The outcome on a machine, documents being read from a disk. -/
def run (machine : Machine) (disk : Disk) : Plan → Except Failure Outcome
  | finish outcome => outcome.print machine
  | check settings debug path =>
      conclude machine settings debug (SourceFile.load machine disk path)

end Plan

/-- The outcome of a command line. -/
def run (machine : Machine) (disk : Disk) (arguments : List String) : Except Failure Outcome :=
  (Plan.ofCommandLine arguments).run machine disk

end RouteAudit.Command
