import RouteAudit.Event
import RouteAudit.Json.Compound

/-!
# Reading events from documents

A document is an object with a list of files, a file an object with a path and a list of events.
A document is read as a whole or refused at its first defect, in the order of the document.
-/

namespace RouteAudit

/-- What can be wrong with a document. -/
inductive Defect where
  | filesMissing
  | pathMissing (position : Nat)
  | eventsNoList
  | eventNoObject
  | unknownType (given : Json)
  | unknownFramework (given : Json)
  | unknownKind (given : Json)
  /-- A text is missing from an object, which is named by its type. -/
  | textMissing (owner : Json) (field : String)
  | noOptionalText (field : String)
  | calleeNoObject
  | argumentsNoList
  | argumentNoObject
  | placeNotWhole

/-- A defect in words. -/
def Defect.text : Defect → String
  | filesMissing => "document needs a 'files' list"
  | pathMissing position => s!"file entry #{position} needs a string 'path'"
  | eventsNoList => "'events' must be a list"
  | eventNoObject => "event must be an object"
  | unknownType given => s!"unknown event type {given.shown}"
  | unknownFramework given => s!"unknown framework {given.shown}"
  | unknownKind given => s!"unknown argument kind {given.shown}"
  | textMissing owner field => s!"{owner.shown} event needs a str {Text.quoted field} field"
  | noOptionalText field => s!"{Text.quoted field} must be a string or null"
  | calleeNoObject => "'callee' must be an object"
  | argumentsNoList => "'arguments' must be a list"
  | argumentNoObject => "each argument must be an object"
  | placeNotWhole => "'line' and 'column' must be integers"

/-- A message with the file and the event that it is about. An event without a file is not
named. -/
def located (file : Option String) (index : Option Whole) (message : String) : String :=
  match file, index with
  | none, _ => message
  | some file, none => file ++ ": " ++ message
  | some file, some index => s!"{file} (event #{index.text}): {message}"

/-- Why an event is refused. -/
inductive EventFault where
  | defect (cause : Defect)
  /-- A list or an object stands where one of several names has to stand. -/
  | compound (kind : Compound)

/-- Why a document is refused. -/
inductive DocumentFault where
  | defect (file : Option String) (index : Option Nat) (cause : Defect)
  | compound (kind : Compound)

/-- The message for a document that is refused. -/
def DocumentFault.message : DocumentFault → String
  | defect file index cause => located file (index.map fun n => .number n) cause.text
  | compound kind => kind.message

/-- A fault of an event at its place in a file. -/
def EventFault.inFile (file : String) (index : Nat) : EventFault → DocumentFault
  | defect cause => .defect (some file) (some index) cause
  | compound kind => .compound kind

namespace Event

/-- Refuses an event for a defect. -/
def refuse {α : Type} (cause : Defect) : Except EventFault α :=
  .error (.defect cause)

/-- What an object is called in messages: its type, if it states one. -/
def ownerName (fields : Named Json) : Json :=
  (fields.lookup "type").getD (.string "event")

/-- A field that must hold a text. -/
def requireText (fields : Named Json) (name : String) : Except EventFault String :=
  match fields.lookup name with
  | some (.string text) => .ok text
  | _ => refuse (.textMissing (ownerName fields) name)

/-- A field that may hold a text, or null, or be missing. -/
def optionalText (fields : Named Json) (name : String) :
    Except EventFault (Option String) :=
  match fields.lookup name with
  | some (.string text) => .ok (some text)
  | some .null => .ok none
  | none => .ok none
  | some _ => refuse (.noOptionalText name)

/-- What a value stands for that has to be one of several names. -/
def oneOf {α : Type} (find : String → Option α) (unknown : Json → Defect) (given : Json) :
    Except EventFault α :=
  match given.compound?, given with
  | some kind, _ => .error (.compound kind)
  | none, .string name =>
      match find name with
      | some found => .ok found
      | none => refuse (unknown given)
  | none, _ => refuse (unknown given)

/-- Reads a callee. -/
def readCallee : Option Json → Except EventFault Callee
  | some (.object fields) => do
      let name ← requireText fields "name"
      let receiver ← optionalText fields "receiver"
      return ⟨name, receiver⟩
  | _ => refuse .calleeNoObject

/-- Reads an argument. -/
def readArgument : Json → Except EventFault Argument
  | .object fields => do
      let given := (fields.lookup "kind").getD .null
      let kind ← oneOf ArgumentKind.ofText? .unknownKind given
      let value ← optionalText fields "value"
      return ⟨kind, value, (fields.lookup "interpolated").any Json.truthy⟩
  | _ => refuse .argumentNoObject

/-- The name itself, if it is the name of a framework. -/
def framework? (name : String) : Option String :=
  if name ∈ frameworkNames then some name else none

/-- Reads the creation of a router. -/
def readRouterCreated (fields : Named Json) : Except EventFault Event := do
  let given := (fields.lookup "framework").getD (.string "generic")
  let framework ← oneOf framework? .unknownFramework given
  let identifier ← requireText fields "identifier"
  let callee ← readCallee (fields.lookup "callee")
  return .routerCreated identifier callee framework

/-- Reads the mounting of a router. -/
def readMountAttempted (fields : Named Json) : Except EventFault Event :=
  match (fields.lookup "arguments").getD (.array []) with
  | .array items => do
      let callee ← readCallee (fields.lookup "callee")
      let arguments ← items.mapM readArgument
      return .mountAttempted callee arguments
  | _ => refuse .argumentsNoList

/-- Reads the import of a router. A local name that is missing or empty is the imported name. -/
def readRouterImported (fields : Named Json) : Except EventFault Event := do
  let importedName ← requireText fields "imported"
  let localName ← optionalText fields "local"
  let source ← requireText fields "source"
  let localName := match localName with
    | some name => if name = "" then importedName else name
    | none => importedName
  return .routerImported importedName localName source

/-- Reads the registration of a route. -/
def readRouteRegistered (fields : Named Json) : Except EventFault Event :=
  match Whole.ofJson? ((fields.lookup "line").getD (.int 0)),
    Whole.ofJson? ((fields.lookup "column").getD (.int 0)) with
  | some line, some column => do
      let method ← requireText fields "method"
      let path ← requireText fields "path"
      let router ← optionalText fields "router"
      return .routeRegistered { method, path, line, column, router }
  | _, _ => refuse .placeNotWhole

/-- Reads an event. -/
def read : Json → Except EventFault Event
  | .object fields =>
      match fields.lookup "type" with
      | some (.string "router") => readRouterCreated fields
      | some (.string "mount") => readMountAttempted fields
      | some (.string "export") => return .routerExported (← requireText fields "identifier")
      | some (.string "import") => readRouterImported fields
      | some (.string "route") => readRouteRegistered fields
      | given => refuse (.unknownType (given.getD .null))
  | _ => refuse .eventNoObject

end Event

namespace SourceFile

/-- Reads the events of a file. -/
def readEvents (path : String) (items : List Json) : Except DocumentFault (List Event) :=
  items.zipIdx.mapM fun (item, index) => (Event.read item).mapError (·.inFile path index)

/-- Reads the entry for a file at a position of the list of files. -/
def readEntry (position : Nat) : Json → Except DocumentFault SourceFile
  | .object fields =>
      match fields.lookup "path" with
      | some (.string path) =>
          match (fields.lookup "events").getD (.array []) with
          | .array items => return ⟨path, ← readEvents path items⟩
          | _ => .error (.defect (some path) none .eventsNoList)
      | _ => .error (.defect none none (.pathMissing position))
  | _ => .error (.defect none none (.pathMissing position))

/-- Reads all files of a document. -/
def readFiles (items : List Json) : Except DocumentFault (List SourceFile) :=
  items.zipIdx.mapM fun (item, position) => readEntry position item

/-- Reads a document. -/
def readDocument (fields : Named Json) : Except DocumentFault (List SourceFile) :=
  match fields.lookup "files" with
  | some (.array items) => readFiles items
  | _ => .error (.defect none none .filesMissing)

end SourceFile

end RouteAudit
