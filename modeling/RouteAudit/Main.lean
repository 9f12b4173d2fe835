import RouteAudit.Command

/-!
# The program

Carries out a command line: reads the document that is to be checked, and writes what comes of it.
-/

namespace RouteAudit.Command

/-- A text of the system as it is kept. -/
def kept (text : String) : String :=
  String.ofList (Text.ofCodes (text.toList.map Char.toNat))

/-- A text as it is written, halves of surrogate pairs as escapes. -/
def written (text : String) : String :=
  String.ofList ((Text.codes text.toList).flatMap fun code =>
    if Text.isSurrogate code then Text.escapeCode code else [Char.ofNat code])

/-- The number that the system gives to an error, and its words for it. -/
def numberOf : IO.Error → UInt32 × String
  | .alreadyExists _ number reason => (number, reason)
  | .otherError number reason => (number, reason)
  | .resourceBusy number reason => (number, reason)
  | .resourceVanished number reason => (number, reason)
  | .unsupportedOperation number reason => (number, reason)
  | .hardwareFault number reason => (number, reason)
  | .unsatisfiedConstraints number reason => (number, reason)
  | .illegalOperation number reason => (number, reason)
  | .protocolError number reason => (number, reason)
  | .timeExpired number reason => (number, reason)
  | .interrupted _ number reason => (number, reason)
  | .noFileOrDirectory _ number reason => (number, reason)
  | .invalidArgument _ number reason => (number, reason)
  | .permissionDenied _ number reason => (number, reason)
  | .resourceExhausted _ number reason => (number, reason)
  | .inappropriateType _ number reason => (number, reason)
  | .noSuchThing _ number reason => (number, reason)
  | .unexpectedEof => (5, "Input/output error")
  | .userError reason => (5, reason)

/-- The cause that an error of the system stands for. Its number may be negated. -/
def causeOf (error : IO.Error) : FileCause :=
  let (number, reason) := numberOf error
  FileCause.ofNumber (if number < 0x80000000 then number.toNat else (0 - number).toNat) reason

/-- Reads the bytes of a file. -/
def readFile (path : String) : IO (Except FileFault (List UInt8)) := do
  match PathFault.ofText? path with
  | some fault => return .error (.noPath fault)
  | none =>
      let tidied := Files.tidy path
      match ← (IO.FS.readBinFile (written tidied)).toBaseIO with
      | .ok bytes => return .ok bytes.toList
      | .error error => return .error (.unopened tidied (causeOf error))

/-- Does what is to be done for a command line. -/
def Plan.perform : Plan → IO (Except Failure Outcome)
  | finish outcome => return outcome.print .utf8
  | check settings debug path => do
      let opened ← readFile path
      return conclude .utf8 settings debug (SourceFile.ofOpened .utf8 path opened)

/-- Carries out a command line, and gives the status at the end. -/
def execute (arguments : List String) : IO UInt32 := do
  match ← (Plan.ofCommandLine (arguments.map kept)).perform with
  | .ok outcome =>
      (← IO.getStdout).putStr (written outcome.output)
      (← IO.getStderr).putStr (written outcome.reports)
      return UInt32.ofNat outcome.status
  | .error failure =>
      (← IO.getStderr).putStrLn (written failure.message)
      return 1

end RouteAudit.Command

/-- Carries out a command line. -/
def main (arguments : List String) : IO UInt32 :=
  RouteAudit.Command.execute arguments
