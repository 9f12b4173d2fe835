import RouteAudit.Event.Refusal
import RouteAudit.Files
import RouteAudit.Json.Reader
import RouteAudit.Text.Utf8

/-!
# Documents in files

Reads the events of a document that is a file: its bytes, its text, its JSON value, and the events
in that.
-/

namespace RouteAudit

/-- Why a file yields no events. -/
inductive LoadFault where
  | file (fault : FileFault)
  | encoding (fault : Text.Utf8Fault)
  /-- The machine has no room to read the text. -/
  | noRoom (message : String)
  /-- The text of the file at the path is no JSON. -/
  | syntaxFlaw (path text : String) (flaw : Json.Flaw)
  | notObject (path : String)
  | document (refusal : DocumentRefusal)

/-- The message for a file that yields no events. -/
def LoadFault.message : LoadFault → String
  | file fault => fault.message
  | encoding fault => fault.message
  | noRoom message => message
  | syntaxFlaw path text flaw =>
      match flaw with
      | .malformed _ _ => located (some path) none ("invalid JSON: " ++ flaw.message text)
      | .tooManyDigits _ | .outOfFuel => flaw.message text
  | notObject path => located (some path) none "top-level JSON value must be an object"
  | document refusal => refusal.message

/-- Whether a fault is one of those that make a document unusable, and not one that reading a
document is not prepared for. -/
def LoadFault.isForeseen : LoadFault → Bool
  | file (.unopened _ _) => true
  | syntaxFlaw _ _ (.malformed _ _) => true
  | notObject _ => true
  | document (.defect _ _ _) => true
  | file (.noPath _) | encoding _ | noRoom _ => false
  | syntaxFlaw _ _ (.tooManyDigits _) | syntaxFlaw _ _ .outOfFuel => false
  | document (.compound _) | document (.unshown _) => false

namespace SourceFile

/-- Reads the document in the text of the file at a path. -/
def readText (machine : Machine) (path text : String) : Except LoadFault (List SourceFile) :=
  match machine.readingError? text, Json.read text with
  | some message, _ => .error (.noRoom message)
  | none, .error flaw => .error (.syntaxFlaw path text flaw)
  | none, .ok (.object fields) => (ofDocument machine fields).mapError .document
  | none, .ok _ => .error (.notObject path)

/-- Reads the document in the bytes of the file at a path. -/
def readBytes (machine : Machine) (path : String) (bytes : List UInt8) :
    Except LoadFault (List SourceFile) :=
  match Text.ofBytes bytes with
  | .error fault => .error (.encoding fault)
  | .ok text => readText machine path text

/-- Reads the document in the file at a path, which has been opened. -/
def ofOpened (machine : Machine) (path : String) (opened : Except FileFault (List UInt8)) :
    Except LoadFault (List SourceFile) :=
  match opened with
  | .error fault => .error (.file fault)
  | .ok bytes => readBytes machine path bytes

/-- Reads the document in the file at a path. -/
def load (machine : Machine) (disk : Disk) (path : String) : Except LoadFault (List SourceFile) :=
  ofOpened machine path (disk.read path)

end SourceFile

end RouteAudit
