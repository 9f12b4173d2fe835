import RouteAudit.Event.Decoder
import RouteAudit.Settings
import RouteAudit.Text.Utf8

/-!
# Machines

What a machine may refuse to do with a text or a value however well formed it is, and what it makes
up. Nested parts take room, of which there is only so much, and what is printed has to have a form
on the output. Errors are told by their messages.
-/

namespace RouteAudit

/-- What depends on the machine. -/
structure Machine where
  /-- The error if there is no room to read a text as JSON. -/
  readingError? : String → Option String
  /-- The error if there is no room to write the message about a defect. -/
  showingError? : Defect → Option String
  /-- The error if the output has no form for a text. -/
  printingError? : String → Option String
  /-- The names that are made up for runs without one, in turn. -/
  runName : Nat → String

namespace Machine

/-- A machine with room for everything, and with UTF-8 on its output. -/
def utf8 : Machine where
  readingError? _ := none
  showingError? _ := none
  printingError? text := (Text.encodeFault? (fun _ => false) text).map Text.EncodeFault.message
  runName := countedName

end Machine

end RouteAudit
