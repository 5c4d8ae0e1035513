import InitiatorStore.Command.Run

/-!
# The program

The program reads from the file system what a run needs (`InitiatorStore.run`), prints what the run
comes to, and brings the document of preferences to where the run has left it.
-/

namespace InitiatorStore

/-- How the program is used. -/
def usage : String :=
  "usage: iscsi-plist [--config PATH] COMMAND\n\n" ++
  "  targets\n" ++
  "  show TARGET\n" ++
  "  add-target NAME [--alias ALIAS]\n" ++
  "  remove-target TARGET\n" ++
  "  add-portal TARGET ADDRESS [--port PORT] [--interface INTERFACE]\n" ++
  "  remove-portal TARGET ADDRESS\n" ++
  "  session TARGET [--error-recovery-level LEVEL] [--max-connections COUNT]\n" ++
  "  connection TARGET ADDRESS [--header-digest DIGEST] [--data-digest DIGEST]\n" ++
  "  set-auth TARGET METHOD [--user USER] [--secret SECRET]\n" ++
  "  initiator [--name NAME] [--alias ALIAS] [--auth METHOD] [--user USER] [--secret SECRET]\n" ++
  "  discovery show|clear\n" ++
  "  help [COMMAND]\n"

/-! ### The file system -/

/-- What stands at a path.  Something that is no directory and cannot be read is a file that does
not hold text. -/
def entryAt? (path : String) : IO (Option FileEntry) := do
  try
    return some (.file (← IO.FS.readBinFile path))
  catch
    | .noFileOrDirectory .. => return none
    | .inappropriateType .. => return some .folder
    | _ => return some (.file ⟨#[0xff]⟩)

/-- Adds to a tree what the file system holds on the way of a path and at its end. -/
def observe (files : FileTree) (path : String) : IO FileTree := do
  let rooted := Path.isRooted path
  let start : String × Place := (if rooted then "/" else "", ⟨rooted, []⟩)
  let seen ← (Path.steps path).foldlM
    (fun ((text, place), files) name => do
      let text := Path.join text name
      let place := place.step name
      match ← entryAt? text with
      | some e => return ((text, place), files.put place e)
      | none => return ((text, place), files)) (start, files)
  return seen.2

/-- Writes a file of a tree to the file system, by way of a temporary one, if it has changed. -/
def settle (before after : FileTree) (path : String) : IO Unit := do
  match after.find? path with
  | some (.file content) =>
    unless before.find? path = some (.file content) do
      let folder := Path.directory path
      unless folder = "" do
        IO.FS.createDirAll folder
      IO.FS.writeBinFile (Path.temporary path) content
      IO.FS.rename (Path.temporary path) path
  | _ => return ()

/-! ### The program -/

/-- Carries out what is asked for on the file system; how that ends. -/
def Invocation.perform (i : Invocation) : IO Ending := do
  let files ← observe {} i.config
  let document := match Config.loadOrDefault files i.config with
    | .ok c => c.document
    | .error _ => i.config
  let files ← observe (← observe files document) (Path.temporary document)
  let outcome := i.run files
  for n in outcome.log do
    IO.eprintln n.line
  IO.print outcome.text
  try
    settle files outcome.files document
    return outcome.ending
  catch _ =>
    return .failed (.write document .io)

end InitiatorStore

/-- Runs the program on the words of its command line. -/
def main (words : List String) : IO UInt32 := do
  let ending ← match InitiatorStore.Invocation.ofWords? words with
    | none =>
      if InitiatorStore.Invocation.asksHelp words then do
        IO.print InitiatorStore.usage
        pure .helped
      else do
        IO.eprint InitiatorStore.usage
        pure .misused
    | some i => i.perform
  match ending.report? with
  | none => pure ()
  | some report =>
    IO.eprint report
    unless report.endsWith "\n" do
      IO.eprintln ""
  return ending.code.toUInt32
