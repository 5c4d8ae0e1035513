import InitiatorStore.Store.Initiator
import InitiatorStore.Store.Targets

/-!
# Authentication of targets and of the initiator

A record holds the tag of the method; for `CHAP` the credentials are looked up in the vault under
the name of the node.  Where they cannot be had there is no authentication.  Setting an
authentication writes the tag, and for `CHAP` tries to write the credentials; that the vault fails
is reported and changes nothing else.
-/

namespace InitiatorStore

namespace Vault

/-- The authentication of a node whose record names a method. -/
def auth (v : Vault) (node : String) (method : Option AuthMethod) : Auth :=
  if method = some .chap then
    match v.read node with
    | .ok c => .chap c
    | .error _ => .none
  else .none

/-- What is reported when the authentication of a node is looked up. -/
def authNotices (v : Vault) (node : String) (method : Option AuthMethod) : List Notice :=
  if method = some .chap then
    match v.read node with
    | .ok _ => []
    | .error e => [.secretMissing node e]
  else []

/-- The vault after the credentials of an authentication, if it has any, have been written. -/
def keep (v : Vault) (node : String) : Auth → Vault
  | .none => v
  | .chap c => v.write node c

/-- What is reported when the credentials of an authentication are written. -/
def keepNotices (v : Vault) (node : String) : Auth → List Notice
  | .none => []
  | .chap _ => ((v.writeError? node).map (Notice.secretNotStored node)).toList

end Vault

namespace Store

variable (s : Store)

/-- The authentication of a target. -/
def targetAuth? (v : Vault) (name : String) : Option Auth :=
  (s.target? name).map fun r => v.auth name r.authMethod?

/-- What is reported when the authentication of a target is looked up. -/
def targetAuthNotices (v : Vault) (name : String) : List Notice :=
  ((s.target? name).map fun r => v.authNotices name r.authMethod?).getD []

/-- Sets the tag of the authentication of a target. -/
def setTargetAuth (name : String) (auth : Auth) : Store :=
  s.onTargets fun t => ((t.ensureTarget name).modifyTarget name
    fun r => { r with authentication := some auth.method.tag }).mark

/-- The authentication of the initiator, whose credentials are kept under its name. -/
def initiatorAuth? (v : Vault) : Option Auth :=
  s.initiator?.map fun r => v.auth r.name r.authMethod?

/-- What is reported when the authentication of the initiator is looked up. -/
def initiatorAuthNotices (v : Vault) : List Notice :=
  (s.initiator?.map fun r => v.authNotices r.name r.authMethod?).getD []

/-- Sets the tag of the authentication of the initiator. -/
def setInitiatorAuth (auth : Auth) : Store :=
  s.onInitiator fun i => ((i.ensure {}).modify
    fun r => { r with authentication := some auth.method.tag }).mark

/-- The name under which credentials of the initiator are kept. -/
def initiatorNode : String := s.initiatorName?.getD ""

end Store

end InitiatorStore
