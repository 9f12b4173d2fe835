import RouteAudit.Named
import RouteAudit.Path
import RouteAudit.Text.Quoted
import RouteAudit.Text.Utf8

/-!
# Files

What opening a file for reading comes to. What the system holds under a path is up to it; a path is
tidied before the system is asked, and a few texts are no paths at all. A tree of files below the
working directory is one such system.
-/

namespace RouteAudit

/-- What there is under the name of a file. -/
inductive FileContent where
  | bytes (bytes : List UInt8)
  | directory
  deriving DecidableEq, Repr

/-- The files below the working directory, by their paths. -/
abbrev Files := Named FileContent

/-- Why the system does not open a file. -/
inductive FileCause where
  | missing
  | isDirectory
  | notDirectory
  | nameTooLong
  /-- Another reason of the system, with its number. -/
  | system (number : Nat) (reason : String)
  deriving DecidableEq, Repr

/-- The cause that has a number in the system. -/
def FileCause.ofNumber (number : Nat) (reason : String) : FileCause :=
  match number with
  | 2 => missing
  | 20 => notDirectory
  | 21 => isDirectory
  | 36 => nameTooLong
  | number => system number reason

/-- Why a text is no path of a file. -/
inductive PathFault where
  | nullCharacter
  /-- The text has no bytes. -/
  | unencodable (fault : Text.EncodeFault)
  deriving DecidableEq, Repr

/-- The message for a text that is no path. -/
def PathFault.message : PathFault → String
  | nullCharacter => "embedded null byte"
  | unencodable fault => fault.message

/-- Whether a surrogate stands for a byte of a path that is part of no character. -/
def PathFault.isByte (code : Nat) : Bool :=
  decide (0xDC80 ≤ code) && decide (code ≤ 0xDCFF)

/-- Why a text is no path of a file, if it is none. -/
def PathFault.ofText? (path : String) : Option PathFault :=
  match Text.encodeFault? isByte path with
  | some fault => some (.unencodable fault)
  | none => if path.toList.contains '\x00' then some .nullCharacter else none

/-- Why a file cannot be read. -/
inductive FileFault where
  | noPath (fault : PathFault)
  | unopened (path : String) (cause : FileCause)
  deriving DecidableEq, Repr

/-- The message for a file that cannot be read. -/
def FileFault.message : FileFault → String
  | noPath fault => fault.message
  | unopened path cause =>
      let path := Text.quoted path
      match cause with
      | .missing => s!"[Errno 2] No such file or directory: {path}"
      | .isDirectory => s!"[Errno 21] Is a directory: {path}"
      | .notDirectory => s!"[Errno 20] Not a directory: {path}"
      | .nameTooLong => s!"[Errno 36] File name too long: {path}"
      | .system number reason => s!"[Errno {number}] {reason}: {path}"

/-- What the system gives for a tidied path that is opened for reading. -/
abbrev Disk := String → Except FileCause (List UInt8)

namespace Files

/-- The names between the slashes of a path, without those that stay in place. -/
def steps (path : String) : List String :=
  (Path.split path).filter (· ≠ ".")

/-- What a path starts with: nothing, or the root. Exactly two slashes are a root of their own. -/
def rootOf (path : String) : String :=
  match path.toList with
  | '/' :: '/' :: '/' :: _ => "/"
  | '/' :: '/' :: _ => "//"
  | '/' :: _ => "/"
  | _ => ""

/-- A path without repeated or trailing slashes and without steps that stay in place. -/
def tidy (path : String) : String :=
  let written := rootOf path ++ "/".intercalate (steps path)
  if written = "" then "." else written

/-- A place in the tree of files. -/
inductive Place where
  /-- Below the working directory, which is the empty list. -/
  | inside (names : List String)
  /-- A directory outside of the working directory. -/
  | outside
  deriving DecidableEq, Repr

/-- What there is at a place. Directories that only lead to files need not be listed. -/
def contentAt (files : Files) : Place → Option FileContent
  | .outside => some .directory
  | .inside names =>
      let listed := files.map fun (path, content) => (steps path, content)
      match listed.lookup names with
      | some content => some content
      | none =>
          if names.isEmpty || listed.any fun (path, _) => names.isPrefixOf path then
            some .directory
          else none

/-- The longest name of a file, in bytes. -/
def nameLimit : Nat := 255

/-- The longest path, in bytes. -/
def pathLimit : Nat := 4095

/-- Follows the steps of a path from a place. -/
def follow (files : Files) (place : Place) : List String → Except FileCause Place
  | [] => .ok place
  | step :: rest =>
      match files.contentAt place with
      | none => .error .missing
      | some (.bytes _) => .error .notDirectory
      | some .directory =>
          if step = ".." then
            match place with
            | .inside (name :: names) => follow files (.inside (name :: names).dropLast) rest
            | _ => follow files .outside rest
          else if nameLimit < step.utf8ByteSize then .error .nameTooLong
          else match place with
            | .inside names =>
                if (files.contentAt (.inside (names ++ [step]))).isSome then
                  follow files (.inside (names ++ [step])) rest
                else .error .missing
            | .outside => .error .missing

/-- What the system gives if these are its files, and there is nothing else outside of the working
directory than directories. -/
def disk (files : Files) : Disk := fun path =>
  if pathLimit < path.utf8ByteSize then .error .nameTooLong
  else
    let start : Place := if rootOf path = "" then .inside [] else .outside
    match follow files start (steps path) with
    | .error cause => .error cause
    | .ok place =>
        match files.contentAt place with
        | some (.bytes bytes) => .ok bytes
        | some .directory => .error .isDirectory
        | none => .error .missing

end Files

/-- The bytes of the file at a path. -/
def Disk.read (disk : Disk) (path : String) : Except FileFault (List UInt8) :=
  match PathFault.ofText? path with
  | some fault => .error (.noPath fault)
  | none => (disk (Files.tidy path)).mapError (.unopened (Files.tidy path))

end RouteAudit
