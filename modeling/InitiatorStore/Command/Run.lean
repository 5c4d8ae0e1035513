import InitiatorStore.Command.Reaction
import InitiatorStore.Config
import InitiatorStore.Store.Synchronize

/-!
# Runs of the program

A run takes the words of a command line and the files, and comes to an `Outcome`: how it ends, what
it prints, and the files afterwards.  It reads the configuration, brings a fresh store into
agreement with preferences, carries the command out on it, and if that changed the store brings it
into agreement once more.

The answer to a command that changes something is printed before the change is committed, so it
stands even if the commit fails.

If the words ask for help instead, that is all that is done.  The text of the help is made of
descriptions of the commands, which are left out here, so it is no part of the outcome.
-/

namespace InitiatorStore

/-- What a command line asks for. -/
structure Invocation where
  /-- The path of the configuration. -/
  config : String
  /-- The command. -/
  command : Command
  deriving DecidableEq

namespace Invocation

/-- The path of the configuration unless another is given. -/
def defaultConfig : String := "/etc/iscsi-initiator/config.toml"

/-- The option for the path of the configuration. -/
def configOption : OptionName := ⟨"config", none⟩

/-- The path of the configuration, and the words after it.  The option stands before the command
and its value is not empty. -/
def configOfWords? : List String → Option (String × List String)
  | [] => none
  | word :: rest =>
    match Word.ofString word, rest with
    | .operand, rest => some (defaultConfig, word :: rest)
    | .dashes, _ => none
    | .option spelling value?, rest =>
      if configOption.isSpelled spelling then
        match value?, rest with
        | some path, rest => if path = "" then none else some (path, rest)
        | none, [] => none
        | none, path :: rest =>
          if path = "" || Word.ofString path ≠ .operand then none else some (path, rest)
      else none

/-- What the words of a command line ask for. -/
def ofWords? (words : List String) : Option Invocation := do
  let (config, rest) ← configOfWords? words
  return { config, command := ← Command.ofWords? rest }

/-- Whether the words of a command line ask for help.  The path of the configuration may stand
before the word that does. -/
def asksHelp (words : List String) : Bool :=
  match configOfWords? words with
  | some (_, rest) => Command.asksHelp rest
  | none => Command.asksHelp words

end Invocation

/-- Why a run fails. -/
inductive Failure
  /-- There is no configuration. -/
  | config (path : String) (error : ConfigError)
  /-- Preferences could not be brought into agreement before the command. -/
  | load (path : String) (error : PrefsError)
  /-- The command was refused. -/
  | refused (refusal : Refusal)
  /-- The change could not be committed. -/
  | write (path : String) (error : PrefsError)
  deriving DecidableEq

namespace Failure

/-- What failed. -/
def message : Failure → String
  | .config path _ => "Failed to load configuration from " ++ Text.quoted path
  | .load path _ => "Failed to load preferences from " ++ Text.quoted path
  | .refused refusal => refusal.message
  | .write path _ => "Failed to write preferences to " ++ Text.quoted path

/-- A text each of whose further lines is set in as far as its first one. -/
def setIn (s : String) : String :=
  "    " ++ String.ofList (s.toList.flatMap fun c => if c = '\n' then "\n    ".toList else [c])

/-- The cause of a failure of the program's own. -/
def ownCause (message : String) : String := "\n\nCaused by:\n" ++ setIn message ++ "\n"

/-- The first of the causes of a failure that comes from elsewhere, after which more follows. -/
def outerCause (message : String) : String := "\n\nCaused by:\n    0: " ++ message

/-- The causes of a failure of preferences. -/
def prefsCause (e : PrefsError) : String :=
  match e with
  | .io | .json => outerCause e.message
  | .backend _ => ownCause e.message

/-- The causes of a failure. -/
def causes : Failure → String
  | .config _ e =>
    match e with
    | .io | .parse => outerCause e.message
    | .invalid _ => ownCause e.message
  | .load _ e | .write _ e => prefsCause e
  | .refused _ => "\n"

/-- The report of a failure. -/
def report (f : Failure) : String := "Error: " ++ f.message ++ f.causes

end Failure

/-- How a run ends. -/
inductive Ending
  | done
  | failed (failure : Failure)
  /-- The words ask for help. -/
  | helped
  /-- The words are no command line of the program. -/
  | misused
  deriving DecidableEq

/-- The exit code of a run. -/
def Ending.code : Ending → Nat
  | .done | .helped => 0
  | .failed _ => 1
  | .misused => 2

/-- The report of a run that fails. -/
def Ending.report? : Ending → Option String
  | .failed f => some f.report
  | _ => none

/-- What a run comes to. -/
structure Outcome where
  ending : Ending
  /-- The lines of the answer. -/
  output : List String := []
  /-- The files afterwards. -/
  files : FileTree
  /-- What is logged. -/
  log : List Notice := []

/-- What is printed. -/
def Outcome.text (o : Outcome) : String := String.join (o.output.map (· ++ "\n"))

namespace Command

/-- Carries a command out under a configuration. -/
def runWith (c : Config) (files : FileTree) (command : Command) : Outcome :=
  let start := ({ removal := c.removal } : Store).synchronize (c.medium files)
  match start.result with
  | .error e =>
    ⟨.failed (.load c.document e), [], start.medium.files, start.notices.filter c.logs⟩
  | .ok _ =>
    match command.react start.store c.vault with
    | .error refusal =>
      ⟨.failed (.refused refusal), [], start.medium.files, start.notices.filter c.logs⟩
    | .ok reaction =>
      let notices := start.notices ++ reaction.notices
      match reaction.changed? with
      | none => ⟨.done, reaction.output, start.medium.files, notices.filter c.logs⟩
      | some (store, _) =>
        let finish := store.synchronize start.medium
        let ending : Ending := match finish.result with
          | .ok _ => .done
          | .error e => .failed (.write c.document e)
        ⟨ending, reaction.output, finish.medium.files,
          (notices ++ finish.notices).filter c.logs⟩

end Command

/-- Carries out what is asked for. -/
def Invocation.run (files : FileTree) (i : Invocation) : Outcome :=
  match Config.loadOrDefault files i.config with
  | .error e => { ending := .failed (.config i.config e), files }
  | .ok c => i.command.runWith c files

/-- A run of the program. -/
def run (files : FileTree) (words : List String) : Outcome :=
  match Invocation.ofWords? words with
  | none => { ending := if Invocation.asksHelp words then .helped else .misused, files }
  | some i => i.run files

end InitiatorStore
