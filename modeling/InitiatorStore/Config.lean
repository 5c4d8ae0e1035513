import InitiatorStore.Prefs.Medium
import InitiatorStore.Store.Basic
import InitiatorStore.Toml.Document
import InitiatorStore.Vault

/-!
# Configuration files

A configuration tells where preferences are kept, how removals mark, where secrets are kept, and how
much is logged.  It is written in TOML, in the three sections `store`, `secrets` and `logging`; what
is left out has a default, and keys that are not known are ignored.

A configuration that has been read is also checked (`Config.problem?`).  In particular the
application's name is a plain name, so that the document of preferences is a file of the configured
directory and of no other.
-/

namespace InitiatorStore

/-- Where secrets are kept. -/
inductive SecretBackend
  | keyring
  | memory
  deriving DecidableEq

namespace SecretBackend

/-- The name of a place for secrets. -/
def name : SecretBackend → String
  | .keyring => "keyring"
  | .memory => "memory"

/-- The place for secrets of a name. -/
def ofName? : String → Option SecretBackend
  | "keyring" => some .keyring
  | "memory" => some .memory
  | _ => none

end SecretBackend

/-- A configuration. -/
structure Config where
  /-- The directory that holds the document of preferences. -/
  path : String := "/var/lib/iscsi-initiator"
  /-- The name of the application, which names the document. -/
  appId : String := "com.github.iscsi-initiator"
  /-- How removals mark. -/
  removal : Removal := .compat
  /-- Where secrets are kept. -/
  backend : SecretBackend := .keyring
  /-- The service under which entries of the keyring are kept. -/
  service : String := defaultService
  /-- How much is logged. -/
  logLevel : String := "info"
  deriving DecidableEq

/-- What is wrong with a configuration. -/
inductive ConfigProblem
  | emptyAppId
  | appIdNotPlain (appId : String)
  | emptyService
  | unknownLogLevel (level : String)
  deriving DecidableEq

/-- The message of a problem. -/
def ConfigProblem.message : ConfigProblem → String
  | .emptyAppId => "store.app_id must not be empty"
  | .appIdNotPlain appId => "store.app_id must be a plain name: " ++ appId
  | .emptyService => "secrets.service must not be empty"
  | .unknownLogLevel level => "unknown log level: " ++ level

/-- Why there is no configuration. -/
inductive ConfigError
  /-- The file could not be read or does not hold text. -/
  | io
  /-- The text is not TOML, or a value is of the wrong kind. -/
  | parse
  | invalid (problem : ConfigProblem)
  deriving DecidableEq

/-- The message of a failure. -/
def ConfigError.message : ConfigError → String
  | .io => "I/O error:"
  | .parse => "TOML parse error:"
  | .invalid problem => "invalid configuration: " ++ problem.message

namespace Config

/-! ### Reading -/

/-- The values of a section by name and place.  A section is a table; it may also be an array of the
values in the order of their declaration, and a date is a section without values. -/
def section? : Option Toml.Item → Option (String → Nat → Option Toml.Item)
  | none => some fun _ _ => none
  | some (.table _ entries) => some fun name _ => entries.get? name
  | some (.array items) => some fun _ i => items[i]?
  | some (.tables items) => some fun _ i => items[i]?
  | some .datetime => some fun _ _ => none
  | some _ => none

/-- A text. -/
def text? (default : String) : Option Toml.Item → Option String
  | none => some default
  | some (.text s) => some s
  | some _ => none

/-- Whether a value is an empty table or array, which may stand beside the name of a choice. -/
def isEmptyItem : Toml.Item → Bool
  | .table _ entries => Entries.isEmpty entries
  | .array items => items.isEmpty
  | .tables items => items.isEmpty
  | _ => false

/-- One of several named choices: its name, or a table with the name as its only key. -/
def choice? {α : Type} (ofName? : String → Option α) (default : α) :
    Option Toml.Item → Option α
  | none => some default
  | some (.text s) => ofName? s
  | some (.table _ entries) =>
    match Entries.toList entries with
    | [(name, item)] => if isEmptyItem item then ofName? name else none
    | _ => none
  | some _ => none

/-- The configuration of a document, without a check. -/
def ofToml? (document : Keyed Toml.Item) : Option Config := do
  let defaults : Config := {}
  let store ← section? (document.get? "store")
  let secrets ← section? (document.get? "secrets")
  let logging ← section? (document.get? "logging")
  return {
    path := ← text? defaults.path (store "path" 0)
    appId := ← text? defaults.appId (store "app_id" 1)
    removal := ← choice? Removal.ofName? defaults.removal (store "removal" 2)
    backend := ← choice? SecretBackend.ofName? defaults.backend (secrets "backend" 0)
    service := ← text? defaults.service (secrets "service" 1)
    logLevel := ← text? defaults.logLevel (logging "log_level" 0) }

/-! ### Checking -/

/-- The names of the log levels. -/
def logLevels : List String := ["off", "error", "warn", "info", "debug", "trace"]

/-- The rank of a log level: what is logged at a level is logged at every level of higher rank. -/
def logRank (level : String) : Nat :=
  logLevels.idxOf (String.ofList (level.toList.map Char.toLower))

/-- Whether a name, without the white space at its ends, is one that a file can have in a directory:
it has no slash of either kind and is not one of the two names of directories. -/
def isPlainName (name : String) : Bool :=
  !name.toList.contains '/' && !name.toList.contains '\\' && name ≠ "." && name ≠ ".."

/-- The first thing that is wrong with a configuration. -/
def problem? (c : Config) : Option ConfigProblem :=
  let name := Text.trim c.appId
  if name = "" then some .emptyAppId
  else if !isPlainName name then some (.appIdNotPlain c.appId)
  else if Text.isBlank c.service then some .emptyService
  else if logLevels.length ≤ logRank c.logLevel then some (.unknownLogLevel c.logLevel)
  else none

/-- The configuration of a text. -/
def parse (s : String) : Except ConfigError Config :=
  match (Toml.read? s).bind ofToml? with
  | none => .error .parse
  | some c =>
    match c.problem? with
    | some p => .error (.invalid p)
    | none => .ok c

/-- The configuration in a file. -/
def load (files : FileTree) (path : String) : Except ConfigError Config :=
  match files.readText? path with
  | none => .error .io
  | some s => parse s

/-- The configuration in a file, or the default one if there is no such file. -/
def loadOrDefault (files : FileTree) (path : String) : Except ConfigError Config :=
  if (files.find? path).isSome then load files path else .ok {}

/-! ### What a configuration describes -/

/-- The path of the document of preferences. -/
def document (c : Config) : String := Path.document c.path c.appId

/-- The medium on which preferences are kept. -/
def medium (c : Config) (files : FileTree) : Medium := ⟨.file c.document, files⟩

/-- The vault for secrets. -/
def vault (c : Config) : Vault :=
  match c.backend with
  | .keyring => .keyring c.service
  | .memory => .memory

/-- Whether a notice is logged. -/
def logs (c : Config) (n : Notice) : Bool := logRank n.level.name ≤ logRank c.logLevel

end Config

end InitiatorStore
