/-!
# Paths

A path is a text in which names are separated by slashes.  It is relative to a base directory
unless it begins with a slash.  The text matters because it is shown to people; what it denotes is
its place (`Path.place`), the names on the way to it once empty names, `.` and `..` are resolved.
-/

namespace InitiatorStore

/-- A place in a file system. -/
structure Place where
  /-- Whether the names start at the root and not at the base directory. -/
  rooted : Bool := false
  /-- The names on the way, outermost first; each leading `..` is a step above the base. -/
  names : List String := []
  deriving DecidableEq

namespace Place

/-- The place of a name in a directory. -/
def child (p : Place) (name : String) : Place := { p with names := p.names ++ [name] }

/-- The directory that holds a place.  The root holds itself. -/
def parent (p : Place) : Place :=
  if p.rooted then { p with names := p.names.dropLast }
  else if p.names.all (· = "..") then p.child ".."
  else { p with names := p.names.dropLast }

/-- One step of a path from a place. -/
def step (p : Place) (name : String) : Place := if name = ".." then p.parent else p.child name

/-- Whether a place is the base directory, the root, or a directory above the base. -/
def isTop (p : Place) : Bool := p.names.all (· = "..")

/-- Whether a place lies below another. -/
def isBelow (p q : Place) : Bool :=
  p.rooted = q.rooted && q.names.isPrefixOf p.names && p.names ≠ q.names

end Place

namespace Path

/-- The texts between the slashes of a text. -/
def splitSlash : List Char → List (List Char)
  | [] => [[]]
  | '/' :: cs => [] :: splitSlash cs
  | c :: cs =>
    match splitSlash cs with
    | [] => [[c]]
    | name :: rest => (c :: name) :: rest

/-- Whether a path begins at the root. -/
def isRooted (p : String) : Bool := p.toList.head? = some '/'

/-- Whether what stands between two slashes is no step: it is empty or `.`. -/
def isIdle (name : List Char) : Bool := name = [] || name = ['.']

/-- The names of a path that are steps. -/
def steps (p : String) : List String :=
  ((splitSlash p.toList).filter (!isIdle ·)).map String.ofList

/-- The place that a path denotes. -/
def place (p : String) : Place := (steps p).foldl Place.step ⟨isRooted p, []⟩

/-- Whether a path can lead to nothing but a directory: it ends in a slash or in `.`. -/
def leadsToFolder (p : String) : Bool := (splitSlash p.toList).getLast?.any isIdle

/-- Whether the last name of a path is `.`, slashes after it not counted. -/
def endsInDot (p : String) : Bool :=
  ((splitSlash p.toList).filter (· ≠ [])).getLast? = some ['.']

/-- The names of a path up to the last one that is a step. -/
def upToStep (names : List (List Char)) : List (List Char) :=
  (names.reverse.dropWhile isIdle).reverse

/-- The path up to the step before its last one: that of the directory that holds what the path
leads to. -/
def directory (p : String) : String :=
  let names := upToStep (upToStep (splitSlash p.toList)).dropLast
  if isRooted p && names = [] then "/" else String.ofList (['/'].intercalate names)

/-- The path of `name` in the directory `dir`.  A name that is itself a path from the root stands
for itself. -/
def join (dir name : String) : String :=
  if isRooted name || dir = "" then name
  else if dir.toList.getLast? = some '/' then dir ++ name
  else dir ++ "/" ++ name

/-- The last name of a path and what stands before it. -/
def splitName (p : String) : List Char × List Char :=
  let r := p.toList.reverse
  ((r.dropWhile (· ≠ '/')).reverse, (r.takeWhile (· ≠ '/')).reverse)

/-- A name without its extension: without its last dot and what follows, unless that dot is the
first character. -/
def stem (name : List Char) : List Char :=
  match name.reverse.dropWhile (· ≠ '.') with
  | [] => name
  | ['.'] => name
  | _ :: rest => rest.reverse

/-- A path with the extension of its last name replaced.  The name is first cut after the dot of
its extension; if that leaves `..`, the path leads to the parent directory, which is given no
extension. -/
def withExtension (p : String) (extension : String) : String :=
  let (dir, name) := splitName p
  if stem name = ['.'] then String.ofList (dir ++ ['.', '.'])
  else String.ofList (dir ++ stem name ++ '.' :: extension.toList)

/-- How many bytes a name may have. -/
def maxNameSize : Nat := 255

/-- How many bytes a path may have. -/
def maxSize : Nat := 4095

/-- Whether a name can be a name in a directory. -/
def isName (name : String) : Bool := name.utf8ByteSize ≤ maxNameSize

/-- Whether a path can be handed to the file system at all. -/
def isUsable (p : String) : Bool := p.utf8ByteSize ≤ maxSize && !p.toList.contains '\x00'

end Path

end InitiatorStore
