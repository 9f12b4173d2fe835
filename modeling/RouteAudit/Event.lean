import RouteAudit.Whole

/-!
# Events

What a front end has found in a source file, in the order of the file: routers that are created,
mounted, exported and imported, and routes that are registered on them.
-/

namespace RouteAudit

/-- What a call expression calls: `receiver.name(…)` or `name(…)`. -/
structure Callee where
  name : String
  receiver : Option String := none
  deriving DecidableEq, Repr

/-- The forms of an argument of a call. -/
inductive ArgumentKind where
  | literal
  | template
  | identifier
  | expression
  deriving DecidableEq, Repr

/-- An argument of a call: the text of a literal or a template, or the name of an identifier. -/
structure Argument where
  kind : ArgumentKind
  value : Option String := none
  /-- Whether parts of a template are filled in when the program runs. -/
  interpolated : Bool := false
  deriving DecidableEq, Repr

/-- The text of an argument, where it is known without running the program. -/
def Argument.staticText? (argument : Argument) : Option String :=
  match argument.kind with
  | .literal => argument.value
  | .template => if argument.interpolated then none else argument.value
  | _ => none

/-- A route that a file registers. -/
structure Registration where
  method : String
  path : String
  line : Whole := .number 0
  column : Whole := .number 0
  router : Option String := none
  deriving DecidableEq, Repr

/-- Something that a front end has found. -/
inductive Event where
  | routerCreated (identifier : String) (callee : Callee) (framework : String)
  | mountAttempted (callee : Callee) (arguments : List Argument)
  | routerExported (identifier : String)
  | routerImported (importedName localName source : String)
  | routeRegistered (registration : Registration)
  deriving DecidableEq, Repr

/-- The events of one source file. -/
structure SourceFile where
  path : String
  events : List Event := []
  deriving DecidableEq, Repr

/-- The names of the frameworks that events may speak of. -/
def frameworkNames : List String := ["express", "fastify", "generic"]

namespace ArgumentKind

/-- All forms of arguments. -/
def all : List ArgumentKind := [literal, template, identifier, expression]

/-- The name of a form in documents. -/
def text : ArgumentKind → String
  | literal => "literal"
  | template => "template"
  | identifier => "identifier"
  | expression => "expression"

/-- The form of a name. -/
def ofText? (name : String) : Option ArgumentKind :=
  all.find? fun kind => kind.text == name

/-- Every form is found by its name. -/
@[simp] theorem ofText?_text (kind : ArgumentKind) : ofText? kind.text = some kind := by
  cases kind <;> decide

end ArgumentKind

end RouteAudit
