import InitiatorStore.Command.Arguments
import InitiatorStore.Domain.Auth
import InitiatorStore.Domain.Connection
import InitiatorStore.Domain.Portal
import InitiatorStore.Domain.Target
import InitiatorStore.Text.Decimal

/-!
# Commands

A `Command` is one request to the program.  On a command line it is a name and its arguments
(`Command.ofWords?`); which operands and options belong to a name, and what they may be, is settled
here, so that a command that has been read is complete.  Whether it can be carried out depends on
the configuration and is settled when it is.

Words that ask for help with the commands are no command (`Command.asksHelp`).
-/

namespace InitiatorStore

/-- A request for an authentication: a method, and what was given of the credentials. -/
structure AuthRequest where
  method : AuthMethod
  user? : Option String := none
  secret? : Option String := none
  deriving DecidableEq

/-- A request to the program. -/
inductive Command
  | listTargets
  | showTarget (target : String)
  | addTarget (target : Target)
  | removeTarget (target : String)
  | addPortal (target : String) (portal : Portal)
  | removePortal (target address : String)
  /-- Shows the session parameters of a target, or sets those that are given. -/
  | session (target : String) (level? : Option UInt8) (connections? : Option UInt32)
  /-- Shows the connection parameters of a portal, or sets those that are given. -/
  | connection (target address : String) (header? data? : Option Digest)
  | setAuth (target : String) (request : AuthRequest)
  /-- Shows what is kept about the initiator, or sets what is given of it. -/
  | initiator (name? alias? : Option String) (request? : Option AuthRequest)
  | showDiscovery
  | clearDiscovery
  deriving DecidableEq

namespace Command

/-! ### Values of arguments -/

/-- The number that a decimal with at most one sign stands for, if it is not negative and smaller
than `bound`. -/
def numberBelow? (bound : Nat) (s : String) : Option Nat :=
  match s.toList with
  | '-' :: cs => (Text.digitsValue? cs).filter (· = 0)
  | cs => (Text.digitsValue? (Text.dropPlus cs)).filter (· < bound)

/-- The error recovery level that a text stands for. -/
def level? (s : String) : Option UInt8 := (numberBelow? UInt8.size s).map .ofNat

/-- The number of connections that a text stands for. -/
def connections? (s : String) : Option UInt32 := (numberBelow? UInt32.size s).map .ofNat

/-- The method of authentication of a name. -/
def method? : String → Option AuthMethod
  | "none" => some .none
  | "chap" => some .chap
  | _ => none

/-- The digest of a name. -/
def digest? : String → Option Digest
  | "none" => some .none
  | "crc32c" => some .crc32c
  | _ => none

/-! ### Options -/

/-- The option for an alias. -/
def aliasOption : OptionName := ⟨"alias", some 'a'⟩

/-- The option for the port of a portal. -/
def portOption : OptionName := ⟨"port", some 'p'⟩

/-- The option for the local interface of a portal. -/
def interfaceOption : OptionName := ⟨"interface", some 'i'⟩

/-- The option for an error recovery level. -/
def levelOption : OptionName := ⟨"error-recovery-level", none⟩

/-- The option for a number of connections. -/
def connectionsOption : OptionName := ⟨"max-connections", none⟩

/-- The option for the digest over headers. -/
def headerOption : OptionName := ⟨"header-digest", none⟩

/-- The option for the digest over data. -/
def dataOption : OptionName := ⟨"data-digest", none⟩

/-- The option for the name of the initiator. -/
def nameOption : OptionName := ⟨"name", some 'n'⟩

/-- The option for the method of authentication. -/
def authOption : OptionName := ⟨"auth", none⟩

/-- The option for a user name. -/
def userOption : OptionName := ⟨"user", some 'u'⟩

/-- The option for a secret. -/
def secretOption : OptionName := ⟨"secret", some 's'⟩

/-! ### Reading -/

/-- The operands of a command without options. -/
def operands? (words : List String) : Option (List String) :=
  (Arguments.ofWords? [] words).map (·.operands)

/-- The command that some words spell. -/
def ofWords? : List String → Option Command
  | "targets" :: words => do
    let [] ← operands? words | none
    return .listTargets
  | "show" :: words => do
    let [target] ← operands? words | none
    return .showTarget target
  | "add-target" :: words => do
    let a ← Arguments.ofWords? [aliasOption] words
    let [name] := a.operands | none
    return .addTarget { name, alias? := a.option? aliasOption }
  | "remove-target" :: words => do
    let [target] ← operands? words | none
    return .removeTarget target
  | "add-portal" :: words => do
    let a ← Arguments.ofWords? [portOption, interfaceOption] words
    let [target, address] := a.operands | none
    return .addPortal target {
      address
      port := (a.option? portOption).getD defaultPort
      interface := (a.option? interfaceOption).getD "" }
  | "remove-portal" :: words => do
    let [target, address] ← operands? words | none
    return .removePortal target address
  | "session" :: words => do
    let a ← Arguments.ofWords? [levelOption, connectionsOption] words
    let [target] := a.operands | none
    return .session target (← (a.option? levelOption).mapM level?)
      (← (a.option? connectionsOption).mapM connections?)
  | "connection" :: words => do
    let a ← Arguments.ofWords? [headerOption, dataOption] words
    let [target, address] := a.operands | none
    return .connection target address (← (a.option? headerOption).mapM digest?)
      (← (a.option? dataOption).mapM digest?)
  | "set-auth" :: words => do
    let a ← Arguments.ofWords? [userOption, secretOption] words
    let [target, method] := a.operands | none
    return .setAuth target ⟨← method? method, a.option? userOption, a.option? secretOption⟩
  | "initiator" :: words => do
    let a ← Arguments.ofWords? [nameOption, aliasOption, authOption, userOption, secretOption] words
    let [] := a.operands | none
    let method ← (a.option? authOption).mapM method?
    return .initiator (a.option? nameOption) (a.option? aliasOption)
      (method.map (⟨·, a.option? userOption, a.option? secretOption⟩))
  | "discovery" :: "show" :: words => do
    let [] ← operands? words | none
    return .showDiscovery
  | "discovery" :: "clear" :: words => do
    let [] ← operands? words | none
    return .clearDiscovery
  | _ => none

/-! ### Help -/

/-- A text of any kind. -/
def anyText (_ : String) : Bool := true

/-- What may stand behind the name of a command, if that is a single word. -/
def grammar? : String → Option Grammar
  | "targets" => some {}
  | "show" | "remove-target" => some { operands := [anyText] }
  | "add-target" => some { operands := [anyText], options := [(aliasOption, anyText)] }
  | "add-portal" =>
    some {
      operands := [anyText, anyText]
      options := [(portOption, anyText), (interfaceOption, anyText)] }
  | "remove-portal" => some { operands := [anyText, anyText] }
  | "session" =>
    some {
      operands := [anyText]
      options := [(levelOption, fun s => (level? s).isSome),
        (connectionsOption, fun s => (connections? s).isSome)] }
  | "connection" =>
    some {
      operands := [anyText, anyText]
      options := [(headerOption, fun s => (digest? s).isSome),
        (dataOption, fun s => (digest? s).isSome)] }
  | "set-auth" =>
    some {
      operands := [anyText, fun s => (method? s).isSome]
      options := [(userOption, anyText), (secretOption, anyText)] }
  | "initiator" =>
    some {
      options := [(nameOption, anyText), (aliasOption, anyText),
        (authOption, fun s => (method? s).isSome), (userOption, anyText), (secretOption, anyText)] }
  | _ => none

/-- Whether a name is that of a command about discovery. -/
def isAboutDiscovery (name : String) : Bool := name = "show" || name = "clear"

/-- Whether the words behind the name of the commands about discovery ask for help. -/
def discoveryAsksHelp : List String → Bool
  | [] => false
  | ["help"] => true
  | ["help", name] => name = "help" || isAboutDiscovery name
  | name :: words =>
    (Word.ofString name).asksHelp || isAboutDiscovery name && Grammar.asksHelp {} words

/-- Whether some words ask for help with the commands, or with one of them. -/
def asksHelp : List String → Bool
  | [] => false
  | ["help"] => true
  | ["help", name] => name = "help" || name = "discovery" || (grammar? name).isSome
  | ["help", "discovery", name] => name = "help" || isAboutDiscovery name
  | "discovery" :: words => discoveryAsksHelp words
  | name :: words =>
    (Word.ofString name).asksHelp || (grammar? name).any (·.asksHelp words)

end Command

end InitiatorStore
