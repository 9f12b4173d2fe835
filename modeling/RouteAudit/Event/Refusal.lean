import RouteAudit.Machine

/-!
# Documents that are refused

What is raised where a document is refused. A defect is told with its place and with the value that
it is about; but that value may be too much to be shown, and then this is what is raised.
-/

namespace RouteAudit

/-- Why a value cannot be shown in a message. -/
inductive ShowFault where
  /-- The machine has no room. -/
  | noRoom (message : String)
  /-- A whole number has more digits than are converted. -/
  | tooManyDigits
  deriving DecidableEq, Repr

/-- The message for a value that cannot be shown. -/
def ShowFault.message : ShowFault → String
  | noRoom message => message
  | tooManyDigits =>
      s!"Exceeds the limit ({Text.digitLimit} digits) for integer string conversion; " ++
        "use sys.set_int_max_str_digits() to increase the limit"

/-- The value that the message about a defect shows. -/
def Defect.given? : Defect → Option Json
  | unknownType given => some given
  | unknownFramework given => some given
  | unknownKind given => some given
  | textMissing owner _ => some owner
  | _ => none

/-- Why the value that a defect is about cannot be shown, if it cannot. -/
def Defect.showFault? (machine : Machine) (cause : Defect) : Option ShowFault :=
  match cause.given? with
  | none => none
  | some given =>
      match machine.showingError? cause with
      | some message => some (.noRoom message)
      | none => if given.hasLongNumber then some .tooManyDigits else none

/-- What is raised where a document is refused. -/
inductive DocumentRefusal where
  /-- The error about a defect, with the file and the event that have it. -/
  | defect (file : Option String) (index : Option Nat) (cause : Defect)
  /-- A list or an object was looked up like a name. -/
  | compound (kind : Compound)
  /-- The value that a defect is about cannot be shown. -/
  | unshown (fault : ShowFault)

/-- The message of what is raised. -/
def DocumentRefusal.message : DocumentRefusal → String
  | defect file index cause => (DocumentFault.defect file index cause).message
  | compound kind => kind.message
  | unshown fault => fault.message

/-- What a fault of a document raises. -/
def DocumentFault.raise (machine : Machine) : DocumentFault → DocumentRefusal
  | defect file index cause =>
      match cause.showFault? machine with
      | some fault => .unshown fault
      | none => .defect file index cause
  | compound kind => .compound kind

/-- Reads the events of a document on a machine. -/
def SourceFile.ofDocument (machine : Machine) (fields : Named Json) :
    Except DocumentRefusal (List SourceFile) :=
  (readDocument fields).mapError (DocumentFault.raise machine)

end RouteAudit
