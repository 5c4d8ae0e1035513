import InitiatorStore.Files.Tree
import InitiatorStore.Json.Node
import InitiatorStore.Prefs.Error
import InitiatorStore.Text.Blank

/-!
# Where preferences are kept

The committed preferences of one application are a document, kept in memory or in a file.  A file
is read as the empty document if it is missing or holds nothing but white space; one that cannot be
read as text, or whose text is no document, is an error and is never taken for an empty one.

A document is written beside its file first and then moved into its place, so that a failure on the
way leaves the file as it was.
-/

namespace InitiatorStore

/-- What holds the committed document. -/
inductive Backing
  | memory (committed : Document)
  | file (path : String)
  deriving DecidableEq

/-- What the stores of one application share: the committed document, and the files. -/
structure Medium where
  /-- What holds the committed document. -/
  backing : Backing
  /-- The files. -/
  files : FileTree := {}
  deriving DecidableEq

namespace Path

/-- The path of the document of an application in a directory. -/
def document (dir app : String) : String := join dir (app ++ ".json")

/-- The path at which a document is written before it is moved into its place. -/
def temporary (document : String) : String := withExtension document "json.tmp"

end Path

namespace FileTree

/-- The document in a file. -/
def readDocument (t : FileTree) (path : String) : Except PrefsError Document :=
  match t.find? path with
  | none => .ok ∅
  | some e =>
    match e.text? with
    | none => .error .io
    | some s =>
      if Text.isBlank s then .ok ∅
      else
        match Document.read? s with
        | none => .error .json
        | some d => .ok d

/-- Writes a document to a file by way of a temporary one; whether that succeeded, and the files
afterwards. -/
def writeDocument (t : FileTree) (path : String) (d : Document) : Bool × FileTree :=
  match t.makeFolders (Path.directory path) with
  | (false, t) => (false, t)
  | (true, t) =>
    match t.writeFile? (Path.temporary path) (Document.pretty d).toUTF8 with
    | none => (false, t)
    | some t =>
      match t.rename? (Path.temporary path) path with
      | none => (false, t)
      | some t => (true, t)

end FileTree

namespace Medium

/-- A medium that keeps the document in memory, empty at first. -/
def memory : Medium := ⟨.memory ∅, {}⟩

/-- A medium that keeps the document of an application in a file of a directory. -/
def file (dir app : String) : Medium := ⟨.file (Path.document dir app), {}⟩

/-- The path of the document, if it is kept in a file. -/
def path? (m : Medium) : Option String :=
  match m.backing with
  | .memory _ => none
  | .file path => some path

/-- The committed document. -/
def read (m : Medium) : Except PrefsError Document :=
  match m.backing with
  | .memory d => .ok d
  | .file path => m.files.readDocument path

/-- Commits a document; whether that succeeded, and the medium afterwards. -/
def write (m : Medium) (d : Document) : Bool × Medium :=
  match m.backing with
  | .memory _ => (true, { m with backing := .memory d })
  | .file path =>
    let (done, files) := m.files.writeDocument path d
    (done, { m with files })

end Medium

end InitiatorStore
