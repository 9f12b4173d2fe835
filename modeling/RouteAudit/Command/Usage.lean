import RouteAudit.Command.Argument
import RouteAudit.Text.Quoted

/-!
# Usage of the commands

The help of the program and of its command, and the messages for arguments that they do not
understand.
-/

namespace RouteAudit.Command

/-- What help there is: on the program, and on its command. -/
inductive Manual where
  | program
  | check
  deriving DecidableEq, Repr

namespace Manual

/-- The name under which a command is called. -/
def name : Manual → String
  | program => "routeguard"
  | check => "routeguard check"

/-- The lines that show how a command is called. -/
def usageLines : Manual → List String
  | program => ["usage: routeguard [-h] \x7bcheck\x7d ..."]
  | check =>
      ["usage: routeguard check [-h] [--level \x7b0,1,2\x7d] [--max-depth MAX_DEPTH]",
        "                        [--severity \x7berror,warn\x7d] [--no-warn-static]",
        "                        [--preserve-constraints]",
        "                        [--global-prefix GLOBAL_PREFIX] [--debug]",
        "                        events"]

/-- The lines that explain a command. -/
def explanationLines : Manual → List String
  | program =>
      ["",
        "routeguard — detect duplicate and conflicting HTTP route registrations.",
        "",
        "positional arguments:",
        "  \x7bcheck\x7d",
        "    check     Check an event document for route conflicts",
        "",
        "options:",
        "  -h, --help  show this help message and exit"]
  | check =>
      ["",
        "positional arguments:",
        "  events                Path to a JSON event document produced by an extractor",
        "",
        "options:",
        "  -h, --help            show this help message and exit",
        "  --level \x7b0,1,2\x7d       Normalization level (0=raw, 1=ignore param names,",
        "                        2=strict)",
        "  --max-depth MAX_DEPTH",
        "                        Maximum router nesting depth (1-10)",
        "  --severity \x7berror,warn\x7d",
        "                        Severity of duplicate routes",
        "  --no-warn-static      Only report duplicates, not static/dynamic overlaps",
        "  --preserve-constraints",
        "                        Keep regex constraints apart when normalizing",
        "  --global-prefix GLOBAL_PREFIX",
        "                        Prefix joined in front of every route (e.g. /api)",
        "  --debug               Log every event the engine processes"]

/-- Lines as a text, each with its end. -/
def textOfLines (lines : List String) : String :=
  String.join (lines.map (· ++ "\n"))

/-- How a command is called. -/
def usage (manual : Manual) : String :=
  textOfLines manual.usageLines

/-- The help on a command. -/
def help (manual : Manual) : String :=
  textOfLines (manual.usageLines ++ manual.explanationLines)

end Manual

/-- Why arguments make no command. -/
inductive UsageFault where
  | ambiguous (ambiguity : Ambiguity)
  /-- A value is written into an option that takes none. -/
  | surplusValue (option : CommandOption) (given : String)
  | missingValue (option : Valued)
  | notWhole (option : Valued) (given : String)
  | noLevel (given : Int)
  | noSeverity (given : String)
  | noCommand (given : String)
  /-- The path of the document is missing. -/
  | missingPath
  | unrecognized (arguments : List String)
  deriving DecidableEq, Repr

/-- The message for arguments that make no command. -/
def UsageFault.message (fault : UsageFault) : String :=
  let about (option : CommandOption) (text : String) : String :=
    s!"argument {option.title}: {text}"
  match fault with
  | ambiguous ⟨given, candidates⟩ =>
      let listed := ", ".intercalate candidates
      s!"ambiguous option: {given} could match {listed}"
  | surplusValue option given =>
      about option ("ignored explicit argument " ++ Text.quoted given)
  | missingValue option => about (.valued option) "expected one argument"
  | notWhole option given => about (.valued option) ("invalid int value: " ++ Text.quoted given)
  | noLevel given => about (.valued .level) s!"invalid choice: {given} (choose from 0, 1, 2)"
  | noSeverity given =>
      about (.valued .severity)
        ("invalid choice: " ++ Text.quoted given ++ " (choose from 'error', 'warn')")
  | noCommand given =>
      "argument command: invalid choice: " ++ Text.quoted given ++ " (choose from 'check')"
  | missingPath => "the following arguments are required: events"
  | unrecognized arguments => "unrecognized arguments: " ++ " ".intercalate arguments

end RouteAudit.Command
