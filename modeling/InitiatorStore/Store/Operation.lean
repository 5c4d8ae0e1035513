import InitiatorStore.Store.Auth
import InitiatorStore.Store.Discovery
import InitiatorStore.Store.Synchronize

/-!
# Operations on a store

`StoreOp` names every operation on a configuration store with its arguments, and `StoreOp.run` says
what it answers and what it changes.  A run of a store is a list of operations.
-/

namespace InitiatorStore

/-- An operation on a configuration store. -/
inductive StoreOp
  | targets (create : Bool)
  | target (name : String) (create : Bool)
  | portals (name : String) (create : Bool)
  | portal (name address : String) (create : Bool)
  | initiator (create : Bool)
  | removeTarget (name : String)
  | removePortal (name address : String)
  | session (name : String)
  | setSession (name : String) (session : Session)
  | connection (name address : String)
  | setConnection (name address : String) (connection : Connection)
  | portalData (name address : String)
  | setPortal (name : String) (portal : Portal)
  | targetData (name : String)
  | setTarget (target : Target)
  | targetNames
  | portalAddresses (name : String)
  | containsTarget (name : String)
  | containsPortal (name address : String)
  | targetAuth (name : String)
  | setTargetAuth (name : String) (auth : Auth)
  | initiatorAuth
  | setInitiatorAuth (auth : Auth)
  | secret (node : String)
  | setSecret (node : String) (credentials : Credentials)
  | initiatorName
  | initiatorAlias
  | setInitiatorName (name : String)
  | setInitiatorAlias (aliasName : String)
  | addDiscovery (record : DiscoveryRecord)
  | discovery
  | clearDiscovery
  | removal
  | synchronize
  | refuse (refusals : Refusals)
  | takeCalls
  deriving DecidableEq

/-- The answer to an operation. -/
inductive StoreAnswer
  | done
  | flag (value : Bool)
  | text (value : Option String)
  | texts (value : Option (List String))
  | targets (value : Option TargetTable)
  | target (value : Option TargetRecord)
  | portals (value : Option PortalTable)
  | portal (value : Option PortalRecord)
  | initiator (value : Option InitiatorRecord)
  | session (value : Option Session)
  | connection (value : Option Connection)
  | portalData (value : Option Portal)
  | targetData (value : Option Target)
  | auth (value : Option Auth)
  | discovery (value : Option DiscoveryRecord)
  | credentials (value : Credentials)
  | secretFailed (error : SecretError)
  | prefsFailed (error : PrefsError)
  | calls (value : List PrefsCall)
  deriving DecidableEq

/-- What an operation comes to. -/
structure Turn where
  answer : StoreAnswer
  store : Store
  vault : Vault
  medium : Medium
  notices : List Notice := []

namespace StoreOp

/-- Runs an operation on a store with its vault and its medium. -/
def run (s : Store) (v : Vault) (m : Medium) : StoreOp → Turn
  | targets create =>
    let s := s.withTargets create
    ⟨.targets s.targets?, s, v, m, []⟩
  | target t create =>
    let s := s.withTarget t create
    ⟨.target (s.target? t), s, v, m, []⟩
  | portals t create =>
    let s := s.withPortals t create
    ⟨.portals (s.portals? t), s, v, m, []⟩
  | portal t a create =>
    let s := s.withPortal t a create
    ⟨.portal (s.portal? t a), s, v, m, []⟩
  | initiator create =>
    let s := s.withInitiator create
    ⟨.initiator s.initiator?, s, v, m, []⟩
  | removeTarget t => ⟨.done, s.removeTarget t, v, m, s.removeTargetNotices t⟩
  | removePortal t a => ⟨.done, s.removePortal t a, v, m, s.removePortalNotices t a⟩
  | session t => ⟨.session (s.session? t), s, v, m, []⟩
  | setSession t c => ⟨.done, s.setSession t c, v, m, []⟩
  | connection t a => ⟨.connection (s.connection? t a), s, v, m, []⟩
  | setConnection t a c => ⟨.done, s.setConnection t a c, v, m, []⟩
  | portalData t a => ⟨.portalData (s.portalData? t a), s, v, m, []⟩
  | setPortal t p => ⟨.done, s.setPortal t p, v, m, []⟩
  | targetData t => ⟨.targetData (s.targetData? t), s, v, m, []⟩
  | setTarget t => ⟨.done, s.setTarget t, v, m, []⟩
  | targetNames => ⟨.texts s.targetNames?, s, v, m, []⟩
  | portalAddresses t => ⟨.texts (s.portalAddresses? t), s, v, m, []⟩
  | containsTarget t => ⟨.flag (s.containsTarget t), s, v, m, []⟩
  | containsPortal t a => ⟨.flag (s.containsPortal t a), s, v, m, []⟩
  | targetAuth t => ⟨.auth (s.targetAuth? v t), s, v, m, s.targetAuthNotices v t⟩
  | setTargetAuth t a => ⟨.done, s.setTargetAuth t a, v.keep t a, m, v.keepNotices t a⟩
  | initiatorAuth => ⟨.auth (s.initiatorAuth? v), s, v, m, s.initiatorAuthNotices v⟩
  | setInitiatorAuth a =>
    ⟨.done, s.setInitiatorAuth a, v.keep s.initiatorNode a, m,
      v.keepNotices s.initiatorNode a⟩
  | secret node =>
    match v.read node with
    | .ok c => ⟨.credentials c, s, v, m, []⟩
    | .error e => ⟨.secretFailed e, s, v, m, []⟩
  | setSecret node c =>
    match v.writeError? node with
    | none => ⟨.done, s, v.write node c, m, []⟩
    | some e => ⟨.secretFailed e, s, v, m, []⟩
  | initiatorName => ⟨.text s.initiatorName?, s, v, m, []⟩
  | initiatorAlias => ⟨.text s.initiatorAlias?, s, v, m, []⟩
  | setInitiatorName name => ⟨.done, s.setInitiatorName name, v, m, []⟩
  | setInitiatorAlias aliasName => ⟨.done, s.setInitiatorAlias aliasName, v, m, []⟩
  | addDiscovery r => ⟨.done, s.addDiscovery r, v, m, []⟩
  | discovery => ⟨.discovery s.discovery?, s, v, m, []⟩
  | clearDiscovery => ⟨.done, s.clearDiscovery, v, m, []⟩
  | removal => ⟨.text (some s.removal.name), s, v, m, []⟩
  | synchronize =>
    let y := s.synchronize m
    match y.result with
    | .ok _ => ⟨.done, y.store, v, y.medium, y.notices⟩
    | .error e => ⟨.prefsFailed e, y.store, v, y.medium, y.notices⟩
  | refuse r => ⟨.done, { s with prefs := { s.prefs with refusals := r } }, v, m, []⟩
  | takeCalls =>
    let (calls, p) := s.prefs.takeCalls
    ⟨.calls calls, { s with prefs := p }, v, m, []⟩

end StoreOp

end InitiatorStore
