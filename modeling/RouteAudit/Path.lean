/-!
# Paths

A path is a text whose fragments are separated by slashes. Empty fragments carry no meaning, so
two paths with the same non-empty fragments name the same place.
-/

namespace RouteAudit.Path

/-- The fragments between slashes, empty ones included: the first one, and those behind it. -/
def fragments : List Char → List Char × List (List Char)
  | [] => ([], [])
  | c :: rest =>
      let (first, more) := fragments rest
      if c = '/' then ([], first :: more) else (c :: first, more)

/-- The non-empty fragments between slashes. -/
def pieces (chars : List Char) : List (List Char) :=
  let (first, more) := fragments chars
  (first :: more).filter (!·.isEmpty)

/-- The non-empty fragments of a path. -/
def split (path : String) : List String :=
  (pieces path.toList).map String.ofList

/-- A text without the slashes at its start. -/
def dropSlashes (chars : List Char) : List Char :=
  chars.dropWhile (· == '/')

/-- A text without the slashes at its two ends. -/
def trimSlashes (chars : List Char) : List Char :=
  (dropSlashes (dropSlashes chars).reverse).reverse

/-- A text in which every run of slashes has become one slash. -/
def squeeze : List Char → List Char
  | [] => []
  | [c] => [c]
  | c :: d :: rest => if c = '/' ∧ d = '/' then squeeze (d :: rest) else c :: squeeze (d :: rest)

/-- Joins paths into one absolute path: each loses its outer slashes, those that become empty are
left out, and single slashes stand between the others. -/
def join (parts : List String) : String :=
  let trimmed := parts.map fun part => trimSlashes part.toList
  let joined := ['/'].intercalate (trimmed.filter (!·.isEmpty))
  String.ofList ('/' :: squeeze joined)

/-- Whether a path contributes nothing when it is put in front of another: it is missing, empty
or a single slash. -/
def isRoot : Option String → Bool
  | none => true
  | some path => path == "" || path == "/"

end RouteAudit.Path
