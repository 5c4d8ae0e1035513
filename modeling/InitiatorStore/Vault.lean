import InitiatorStore.Domain.Auth
import InitiatorStore.Keyed.Basic
import InitiatorStore.Text.Blank

/-!
# Secret stores

A `Vault` keeps credentials by the name of the node that they belong to, outside of preferences.
A vault in memory accepts every name and counts its writes.  A vault in the system keyring refuses
blank names before it turns to the keyring, which this library does not reach.  Either kind can be
out of order, and then every call fails.
-/

namespace InitiatorStore

/-- Why a secret store did not answer. -/
inductive SecretError
  | notFound (node : String)
  | emptyNodeName
  | malformed (reason : String)
  | backend (reason : String)
  deriving DecidableEq

/-- The message of a failure. -/
def SecretError.message : SecretError → String
  | .notFound node => "no CHAP secret stored for " ++ node
  | .emptyNodeName => "node name must not be empty"
  | .malformed reason => "malformed secret entry: " ++ reason
  | .backend reason => "secret store error: " ++ reason

/-- What is out of order in a vault. -/
inductive VaultFault
  | notFound
  | emptyNodeName
  | malformed
  | backend
  deriving DecidableEq

/-- The failure of a call about a node in a vault that is out of order. -/
def VaultFault.error (node : String) : VaultFault → SecretError
  | .notFound => .notFound node
  | .emptyNodeName => .emptyNodeName
  | .malformed => .malformed "bad entry"
  | .backend => .backend "keychain locked"

/-- Where a vault keeps its entries. -/
inductive VaultKind
  | memory
  | keyring (service : String)
  deriving DecidableEq

/-- The service under which entries of a keyring are kept unless another is chosen. -/
def defaultService : String := "iSCSI CHAP"

/-- A store of credentials by node name. -/
structure Vault where
  /-- Where the entries are kept. -/
  kind : VaultKind := .memory
  /-- The entries of a vault in memory. -/
  entries : Keyed Credentials := ∅
  /-- How many writes have succeeded. -/
  writes : Nat := 0
  /-- What is out of order, if anything is. -/
  fault : Option VaultFault := none
  deriving DecidableEq

namespace Vault

/-- An empty vault in memory. -/
def memory : Vault := {}

/-- A vault in the system keyring. -/
def keyring (service : String) : Vault := { kind := .keyring service }

/-- Why the system keyring does not answer about a node. -/
def keyringError (node : String) : SecretError :=
  if Text.isBlank node then .emptyNodeName else .backend "no system keyring"

/-- The credentials of a node. -/
def read (v : Vault) (node : String) : Except SecretError Credentials :=
  match v.fault, v.kind with
  | some f, _ => .error (f.error node)
  | none, .keyring _ => .error (keyringError node)
  | none, .memory =>
    match v.entries.get? node with
    | some c => .ok c
    | none => .error (.notFound node)

/-- Why credentials of a node cannot be written, if they cannot. -/
def writeError? (v : Vault) (node : String) : Option SecretError :=
  match v.fault, v.kind with
  | some f, _ => some (f.error node)
  | none, .keyring _ => some (keyringError node)
  | none, .memory => none

/-- Writes the credentials of a node, in place of any there; a vault that cannot is unchanged. -/
def write (v : Vault) (node : String) (c : Credentials) : Vault :=
  match v.writeError? node with
  | some _ => v
  | none => { v with entries := v.entries.insert node c, writes := v.writes + 1 }

/-- Whether a vault holds credentials of a node. -/
def contains (v : Vault) (node : String) : Bool := v.entries.contains node

end Vault

end InitiatorStore
