import InitiatorStore.Files.Path

/-!
# File trees

A file tree holds files and directories at places.  Its operations fail where a file system makes
them fail: a name on the way is missing or is a file, a name is too long, a directory stands where
a file is wanted, a directory that is to be removed is not empty.  An operation that fails answers
`none`, except that making directories keeps those it made before it failed.

A `FileChange` names one of these operations, by which others change the files.
-/

namespace InitiatorStore

/-- What stands at a place. -/
inductive FileEntry
  | file (content : ByteArray)
  | folder

/-- Two files are equal when their bytes are. -/
instance : DecidableEq FileEntry
  | .file a, .file b =>
    decidable_of_iff (a.data = b.data) ⟨fun h => congrArg _ (ByteArray.ext h), fun h => by
      rw [FileEntry.file.inj h]⟩
  | .file _, .folder => isFalse (by simp)
  | .folder, .file _ => isFalse (by simp)
  | .folder, .folder => isTrue rfl

/-- The text of a file, if it is one and its bytes are those of a text. -/
def FileEntry.text? : FileEntry → Option String
  | .file content => String.fromUTF8? content
  | .folder => none

/-- Files and directories at places. -/
structure FileTree where
  /-- The entries; each place occurs at most once. -/
  entries : List (Place × FileEntry) := []
  deriving DecidableEq

namespace FileTree

variable (t : FileTree)

/-- What stands at a place.  The base directory and everything above it are directories. -/
def at? (p : Place) : Option FileEntry :=
  if p.isTop then some .folder else t.entries.lookup p

/-- The tree with an entry at a place, in place of any entry there. -/
def put (p : Place) (e : FileEntry) : FileTree :=
  ⟨(p, e) :: t.entries.filter (·.1 ≠ p)⟩

/-- The tree without what stands at a place. -/
def drop (p : Place) : FileTree := ⟨t.entries.filter (·.1 ≠ p)⟩

/-! ### Following paths -/

/-- The place that some steps lead to from a place, if they lead through directories. -/
def walk? (p : Place) : List String → Option Place
  | [] => some p
  | name :: rest =>
    if t.at? p = some .folder && Path.isName name then walk? (p.step name) rest else none

/-- The place that a path leads to. -/
def reach? (path : String) : Option Place :=
  if path ≠ "" && Path.isUsable path then
    (t.walk? ⟨Path.isRooted path, []⟩ (Path.steps path)).filter fun p =>
      !Path.leadsToFolder path || t.at? p = some .folder
  else none

/-- What a path leads to. -/
def find? (path : String) : Option FileEntry := (t.reach? path).bind t.at?

/-- The text of the file that a path leads to. -/
def readText? (path : String) : Option String := (t.find? path).bind FileEntry.text?

/-! ### Changes -/

/-- Makes the directories on the way from a place; whether all are there in the end, and the
tree. -/
def makeFoldersFrom (t : FileTree) (p : Place) : List String → Bool × FileTree
  | [] => (true, t)
  | name :: rest =>
    if Path.isName name then
      match t.at? (p.step name) with
      | some .folder => makeFoldersFrom t (p.step name) rest
      | some (.file _) => (false, t)
      | none => makeFoldersFrom (t.put (p.step name) .folder) (p.step name) rest
    else (false, t)

/-- Makes a directory and those on the way to it; whether it is there in the end, and the tree.
The directory that a `.` at the end of the path stands for is not made. -/
def makeFolders (path : String) : Bool × FileTree :=
  let start : Place := ⟨Path.isRooted path, []⟩
  if !Path.isUsable path then (false, t)
  else if Path.endsInDot path then
    match t.makeFoldersFrom start (Path.steps path).dropLast with
    | (false, t) => (false, t)
    | (true, t) => (t.find? path = some .folder, t)
  else t.makeFoldersFrom start (Path.steps path)

/-- Writes a file in a directory that is there, in place of any file there. -/
def writeFile? (path : String) (content : ByteArray) : Option FileTree :=
  (t.reach? path).bind fun p =>
    if t.at? p = some .folder then none else some (t.put p (.file content))

/-- Moves a file onto another path, in place of any file there. -/
def rename? (source target : String) : Option FileTree := do
  let p ← t.reach? source
  let q ← t.reach? target
  match t.at? p with
  | some (.file content) =>
    if t.at? q = some .folder then none else some ((t.drop p).put q (.file content))
  | _ => none

/-- Removes a file. -/
def removeFile? (path : String) : Option FileTree :=
  (t.reach? path).bind fun p =>
    match t.at? p with
    | some (.file _) => some (t.drop p)
    | _ => none

/-- Removes a directory that is empty.  A path that ends in `.` removes none. -/
def removeFolder? (path : String) : Option FileTree :=
  if Path.endsInDot path then none
  else
    (t.reach? path).bind fun p =>
      if !p.isTop && t.at? p = some .folder && !t.entries.any (·.1.isBelow p) then some (t.drop p)
      else none

end FileTree

/-- A change of files. -/
inductive FileChange
  /-- A directory is made, and those on the way to it. -/
  | makeFolder (path : String)
  /-- A file is written, in place of any file there. -/
  | writeFile (path : String) (content : ByteArray)
  /-- A file is moved, in place of any file there. -/
  | moveFile (source target : String)
  | removeFile (path : String)
  /-- A directory that is empty is removed. -/
  | removeFolder (path : String)

/-- Whether a change succeeds, and the tree afterwards. -/
def FileTree.change (t : FileTree) (c : FileChange) : Bool × FileTree :=
  let orKept (u? : Option FileTree) := (u?.isSome, u?.getD t)
  match c with
  | .makeFolder path => t.makeFolders path
  | .writeFile path content => orKept (t.writeFile? path content)
  | .moveFile source target => orKept (t.rename? source target)
  | .removeFile path => orKept (t.removeFile? path)
  | .removeFolder path => orKept (t.removeFolder? path)

end InitiatorStore
