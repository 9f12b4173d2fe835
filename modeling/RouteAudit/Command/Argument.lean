import RouteAudit.Text.Digit

/-!
# Command-line arguments

What each argument of a command line is taken for: an option, a word of its own, or the mark that
ends the options. Long options may be shortened as long as one option fits.
-/

namespace RouteAudit.Command

/-- Options that are on when they are given. -/
inductive Flag where
  | duplicatesOnly
  | keepConstraints
  | debug
  deriving DecidableEq, Repr

/-- Options that are given with a value. -/
inductive Valued where
  | level
  | maxDepth
  | severity
  | globalPath
  deriving DecidableEq, Repr

/-- The options of the command line. -/
inductive CommandOption where
  | help
  | flag (flag : Flag)
  | valued (option : Valued)
  deriving DecidableEq, Repr

namespace CommandOption

/-- The spellings of an option. -/
def spellings : CommandOption → List String
  | help => ["-h", "--help"]
  | flag .duplicatesOnly => ["--no-warn-static"]
  | flag .keepConstraints => ["--preserve-constraints"]
  | flag .debug => ["--debug"]
  | valued .level => ["--level"]
  | valued .maxDepth => ["--max-depth"]
  | valued .severity => ["--severity"]
  | valued .globalPath => ["--global-prefix"]

/-- The name of an option in messages. -/
def title (option : CommandOption) : String :=
  "/".intercalate option.spellings

/-- The options that the program knows in front of a command. -/
def ofProgram : List CommandOption := [help]

/-- The options of a check, in the order in which they are listed. -/
def ofCheck : List CommandOption :=
  [help, valued .level, valued .maxDepth, valued .severity, flag .duplicatesOnly,
    flag .keepConstraints, valued .globalPath, flag .debug]

/-- The option of a spelling. -/
def spelled? (options : List CommandOption) (text : String) : Option CommandOption :=
  options.find? fun option => option.spellings.contains text

/-- The options whose spelling starts with a text, with that spelling. -/
def startingWith (options : List CommandOption) (start : List Char) :
    List (CommandOption × String) :=
  options.flatMap fun option =>
    (option.spellings.filter fun spelling => start.isPrefixOf spelling.toList).map (option, ·)

end CommandOption

/-- What an argument is taken for. -/
inductive Argument where
  /-- A word of its own, or the value of the option in front of it. -/
  | operand (text : String)
  /-- The mark behind which every argument is an operand. -/
  | divider
  /-- An option, and the value that is written into the same argument. -/
  | option (option : CommandOption) (value : Option String)
  /-- An option that is not known. -/
  | unknown (text : String)
  deriving DecidableEq, Repr

/-- An argument that shortens several options. -/
structure Ambiguity where
  given : String
  candidates : List String
  deriving DecidableEq, Repr

namespace Argument

/-- The text of the dividing mark. -/
def dividerText : String := "--"

/-- A text up to its first equals sign, and the text behind that sign. -/
def splitValue (chars : List Char) : List Char × Option String :=
  match chars.dropWhile (· != '=') with
  | [] => (chars, none)
  | _ :: value => (chars.takeWhile (· != '='), some (String.ofList value))

/-- Whether digits, with or without a fraction, and nothing else follow. -/
def isUnsigned (chars : List Char) : Bool :=
  match chars.dropWhile Text.isDigit with
  | [] => !chars.isEmpty
  | '.' :: fraction => !fraction.isEmpty && fraction.all Text.isDigit
  | _ => false

/-- Whether an argument looks like a negative number. A newline may end it. -/
def isNegativeNumber (chars : List Char) : Bool :=
  match chars with
  | '-' :: digits => isUnsigned (if digits.getLast? = some '\n' then digits.dropLast else digits)
  | _ => false

/-- An argument that starts with a dash and fits no option: negative numbers and texts with a space
are operands all the same. -/
def ofUnspelled (text : String) : Argument :=
  if isNegativeNumber text.toList || text.toList.contains ' ' then .operand text
  else .unknown text

/-- The value that letters behind a one-letter option give to one of the options. The letters are
options themselves, up to the first that is not known; none of them takes a value. -/
def valueInLetters (options : List CommandOption) : List Char → Option String
  | [] => none
  | c :: rest =>
      if c = '-' then some (String.ofList (c :: rest))
      else if (CommandOption.spelled? options (String.ofList ['-', c])).isSome then
        match rest with
        | '=' :: value => some (String.ofList value)
        | rest => valueInLetters options rest
      else none

/-- What an argument in front of the divider is taken for. -/
def ofText (options : List CommandOption) (text : String) : Except Ambiguity Argument :=
  match text.toList with
  | '-' :: c :: letters =>
      match CommandOption.spelled? options text with
      | some known => .ok (.option known none)
      | none =>
          let (name, value) := splitValue text.toList
          match CommandOption.spelled? options (String.ofList name), value with
          | some known, some value => .ok (.option known (some value))
          | _, _ =>
              if c = '-' then
                match CommandOption.startingWith options name with
                | [] => .ok (ofUnspelled text)
                | [(known, _)] => .ok (.option known value)
                | several => .error ⟨text, several.map Prod.snd⟩
              else
                match CommandOption.spelled? options (String.ofList ['-', c]) with
                | some known => .ok (.option known (valueInLetters options letters))
                | none => .ok (ofUnspelled text)
  | _ => .ok (.operand text)

/-- What the arguments of a command line are taken for. -/
def ofTexts (options : List CommandOption) : List String → Except Ambiguity (List Argument)
  | [] => .ok []
  | text :: rest =>
      if text = dividerText then .ok (.divider :: rest.map .operand)
      else do
        let first ← ofText options text
        let others ← ofTexts options rest
        return first :: others

end Argument

end RouteAudit.Command
