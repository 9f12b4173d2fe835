import RouteAudit.Event
import RouteAudit.Json.Value

/-!
# Writing events as documents

The document that spells out every field of every event.
-/

namespace RouteAudit

/-- A text that may be missing, as a value. -/
def Json.ofOptionalText : Option String → Json
  | some text => .string text
  | none => .null

/-- A callee as an object. -/
def Callee.toJson (callee : Callee) : Json :=
  .object [("name", .string callee.name), ("receiver", .ofOptionalText callee.receiver)]

/-- An argument as an object. -/
def Argument.toJson (argument : Argument) : Json :=
  .object [("kind", .string argument.kind.text), ("value", .ofOptionalText argument.value),
    ("interpolated", .bool argument.interpolated)]

/-- An event as an object. -/
def Event.toJson : Event → Json
  | routerCreated identifier callee framework =>
      .object [("type", .string "router"), ("identifier", .string identifier),
        ("callee", callee.toJson), ("framework", .string framework)]
  | mountAttempted callee arguments =>
      .object [("type", .string "mount"), ("callee", callee.toJson),
        ("arguments", .array (arguments.map Argument.toJson))]
  | routerExported identifier =>
      .object [("type", .string "export"), ("identifier", .string identifier)]
  | routerImported importedName localName source =>
      .object [("type", .string "import"), ("imported", .string importedName),
        ("local", .string localName), ("source", .string source)]
  | routeRegistered registration =>
      .object [("type", .string "route"), ("method", .string registration.method),
        ("path", .string registration.path), ("line", registration.line.toJson),
        ("column", registration.column.toJson),
        ("router", .ofOptionalText registration.router)]

/-- The entry for a file as an object. -/
def SourceFile.toJson (file : SourceFile) : Json :=
  .object [("path", .string file.path), ("events", .array (file.events.map Event.toJson))]

/-- The fields of the document for a list of files. -/
def SourceFile.document (files : List SourceFile) : Named Json :=
  [("files", .array (files.map SourceFile.toJson))]

end RouteAudit
