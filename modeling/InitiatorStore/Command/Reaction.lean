import InitiatorStore.Command.Basic
import InitiatorStore.Store.Auth
import InitiatorStore.Store.Discovery

/-!
# What commands do

`Command.react` says what a command comes to on a store whose caches agree with preferences.  A
command is refused, or answers, or answers and changes the store; whoever runs it then brings the
changed store into agreement with preferences (`InitiatorStore.Command.Run`).

The answer of a command that changes something is a single line that says what was done.
-/

namespace InitiatorStore

/-- Why a command is not carried out. -/
inductive Refusal
  | targetNotConfigured (target : String)
  | portalNotConfigured (target address : String)
  | levelOutOfRange
  | noConnections
  | userMissing
  | secretMissing
  deriving DecidableEq

/-- The message of a refusal. -/
def Refusal.message : Refusal → String
  | .targetNotConfigured target => "Target not configured: " ++ target
  | .portalNotConfigured target address =>
    "Portal " ++ address ++ " not configured for " ++ target
  | .levelOutOfRange => "error recovery level must be 0, 1 or 2"
  | .noConnections => "maximum connections must be at least 1"
  | .userMissing => "CHAP requires --user"
  | .secretMissing => "CHAP requires --secret"

/-- What a command that is not refused comes to. -/
structure Reaction where
  /-- The lines of the answer. -/
  output : List String
  /-- The store and the vault afterwards, of a command that changes them. -/
  changed? : Option (Store × Vault) := none
  notices : List Notice := []

/-- The authentication that is asked for, if all that it needs is given. -/
def AuthRequest.auth (r : AuthRequest) : Except Refusal Auth :=
  match r.method, r.user?, r.secret? with
  | .none, _, _ => .ok .none
  | .chap, none, _ => .error .userMissing
  | .chap, some _, none => .error .secretMissing
  | .chap, some user, some secret => .ok (.chap ⟨user, secret⟩)

/-! ### Answers -/

/-- A line for a value that may be missing. -/
def optionalLine (label : String) : Option String → List String
  | none => []
  | some value => [label ++ value]

namespace Store

variable (s : Store)

/-- The alias of a target. -/
def targetAlias? (name : String) : Option String := (s.targetData? name).bind (·.alias?)

/-- The lines about one target in a list of targets. -/
def targetLines (name : String) : List String :=
  name :: optionalLine "  Alias:   " (s.targetAlias? name) ++
    ["  Portals: " ++ Text.ofNat ((s.portalAddresses? name).getD []).length, ""]

/-- The list of all targets. -/
def targetListLines : List String :=
  match s.targetNames? with
  | none => ["No targets configured."]
  | some names => "Configured Targets:" :: "" :: names.flatMap s.targetLines

/-- The lines about one portal of a target. -/
def portalLines (target address : String) : List String :=
  let data : List String := match s.portalData? target address with
    | none => []
    | some p =>
      ("    Port:         " ++ p.port) ::
        optionalLine "    Interface:    " (some p.interface |>.filter (· ≠ ""))
  let parameters : List String := match s.connection? target address with
    | none => []
    | some c => ["    Header Digest: " ++ c.header.tag, "    Data Digest:   " ++ c.data.tag]
  ("  Portal " ++ address) :: data ++ parameters

/-- All that is shown of a target. -/
def targetInfoLines (v : Vault) (target : String) : List String :=
  let parameters : List String := match s.session? target with
    | none => []
    | some p =>
      ["  Error Recovery: " ++ Text.ofNat p.errorRecoveryLevel.toNat,
        "  Connections:    " ++ Text.ofNat p.maxConnections.toNat]
  ["Target Information:", "  IQN:            " ++ target] ++
    optionalLine "  Alias:          " (s.targetAlias? target) ++
    optionalLine "  Authentication: " ((s.targetAuth? v target).map (·.method.tag)) ++
    parameters ++ ((s.portalAddresses? target).getD []).flatMap (s.portalLines target)

/-- What is shown of the initiator. -/
def initiatorLines (v : Vault) : List String :=
  ["Initiator:", "  Name:           " ++ s.initiatorName?.getD "",
    "  Alias:          " ++ s.initiatorAlias?.getD "",
    "  Authentication: " ++ ((s.initiatorAuth? v).getD .none).method.tag]

end Store

/-- The lines about one discovered target. -/
def DiscoveryRecord.targetLines (r : DiscoveryRecord) (target : String) : List String :=
  target :: ((r.groups? target).getD ∅).toList.flatMap fun group =>
    group.2.vals.map fun p => "  [" ++ group.1 ++ "] " ++ p.address ++ ":" ++ p.port

/-- What is shown of a discovery record. -/
def DiscoveryRecord.lines (r : DiscoveryRecord) : List String :=
  if r.isEmpty then ["No discovery results."]
  else "Discovered Targets:" :: "" :: r.targetNames.flatMap r.targetLines

/-- What is shown of session parameters. -/
def Session.lines (c : Session) : List String :=
  ["Error Recovery Level: " ++ Text.ofNat c.errorRecoveryLevel.toNat,
    "Maximum Connections:  " ++ Text.ofNat c.maxConnections.toNat]

/-- What is shown of connection parameters. -/
def Connection.lines (c : Connection) : List String :=
  ["Header Digest: " ++ c.header.tag, "Data Digest:   " ++ c.data.tag]

/-! ### Changes -/

namespace Session

/-- Session parameters with another error recovery level, if one is given. -/
def withLevel (c : Session) : Option UInt8 → Except Refusal Session
  | none => .ok c
  | some level =>
    if level.toNat ≤ highestLevel then .ok { c with errorRecoveryLevel := level }
    else .error .levelOutOfRange

/-- Session parameters with another number of connections, if one is given. -/
def withConnections (c : Session) : Option UInt32 → Except Refusal Session
  | none => .ok c
  | some n => if 1 ≤ n.toNat then .ok { c with maxConnections := n } else .error .noConnections

end Session

/-- Connection parameters with other digests, as far as they are given. -/
def Connection.withDigests (c : Connection) (header? data? : Option Digest) : Connection :=
  ⟨header?.getD c.header, data?.getD c.data⟩

namespace Reaction

/-- An answer that changes nothing. -/
def answer (output : List String) (notices : List Notice := []) : Reaction :=
  { output, notices }

/-- A change, and the line that says what was done. -/
def change (done : String) (s : Store) (v : Vault) (notices : List Notice := []) : Reaction :=
  { output := ["✓ " ++ done], changed? := some (s, v), notices }

end Reaction

namespace Store

variable (s : Store)

/-- Refuses a target that is not configured. -/
def requireTarget (target : String) : Except Refusal Unit :=
  if s.containsTarget target then .ok () else .error (.targetNotConfigured target)

/-- Refuses a portal that is not configured. -/
def requirePortal (target address : String) : Except Refusal Unit :=
  if s.containsPortal target address then .ok ()
  else .error (.portalNotConfigured target address)

/-- The store with what is given of the name and the alias of the initiator. -/
def setInitiatorIdentity (name? alias? : Option String) : Store :=
  let s := match name? with
    | none => s
    | some name => s.setInitiatorName name
  match alias? with
  | none => s
  | some aliasName => s.setInitiatorAlias aliasName

/-- Changes what is given about the initiator. -/
def changeInitiator (v : Vault) (name? alias? : Option String) :
    Option AuthRequest → Except Refusal Reaction
  | none => .ok (.change "Updated initiator" (s.setInitiatorIdentity name? alias?) v)
  | some request => do
    let s := s.setInitiatorIdentity name? alias?
    let auth ← request.auth
    let node := s.initiatorNode
    return .change "Updated initiator" (s.setInitiatorAuth auth) (v.keep node auth)
      ((if node = "" then [.initiatorUnnamed] else []) ++ v.keepNotices node auth)

end Store

/-- What a command comes to on a store with its vault. -/
def Command.react (s : Store) (v : Vault) : Command → Except Refusal Reaction
  | .listTargets => return .answer s.targetListLines
  | .showTarget target => do
    s.requireTarget target
    return .answer (s.targetInfoLines v target) (s.targetAuthNotices v target)
  | .addTarget target =>
    return .change ("Added target " ++ target.name) (s.setTarget target) v
  | .removeTarget target => do
    s.requireTarget target
    return .change ("Removed target " ++ target) (s.removeTarget target) v
      (s.removeTargetNotices target)
  | .addPortal target portal =>
    return .change ("Added portal " ++ portal.address ++ ":" ++ portal.port ++ " to " ++ target)
      (s.setPortal target portal) v
  | .removePortal target address => do
    s.requirePortal target address
    return .change ("Removed portal " ++ address ++ " from " ++ target)
      (s.removePortal target address) v (s.removePortalNotices target address)
  | .session target level? connections? => do
    s.requireTarget target
    let current := (s.session? target).getD {}
    if level?.isNone && connections?.isNone then return .answer current.lines
    let new ← (← current.withLevel level?).withConnections connections?
    return .change ("Updated session parameters for " ++ target) (s.setSession target new) v
  | .connection target address header? data? => do
    s.requirePortal target address
    let current := (s.connection? target address).getD {}
    if header?.isNone && data?.isNone then return .answer current.lines
    return .change ("Updated connection parameters for " ++ target ++ " at " ++ address)
      (s.setConnection target address (current.withDigests header? data?)) v
  | .setAuth target request => do
    let auth ← request.auth
    return .change ("Authentication for " ++ target ++ ": " ++ auth.method.tag)
      (s.setTargetAuth target auth) (v.keep target auth) (v.keepNotices target auth)
  | .initiator none none none =>
    return .answer (s.initiatorLines v) (s.initiatorAuthNotices v)
  | .initiator name? alias? request? => s.changeInitiator v name? alias? request?
  | .showDiscovery => return .answer (s.discovery?.getD .empty).lines
  | .clearDiscovery => return .change "Cleared discovery results" s.clearDiscovery v

end InitiatorStore
