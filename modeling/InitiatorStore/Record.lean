import InitiatorStore.Domain.Auth
import InitiatorStore.Domain.Portal
import InitiatorStore.Node

/-!
# Configuration records

What is kept about a target, about one of its portals, and about the initiator.  A record names the
entries that are understood and keeps every other entry of the mapping it was read from in `other`,
so that writing it again loses nothing.

The entry `Authentication` is a tag only if it is a string; anything else is kept in `other`.
A fresh portal has three blank entries, and a portal is always written with all three.
-/

namespace InitiatorStore

/-- The key of an authentication tag. -/
def authenticationKey : String := "Authentication"

/-- What is kept about a portal of a target. -/
structure PortalRecord where
  /-- The encoded `Portal`. -/
  portal : Node := .blank
  /-- The encoded `Connection`. -/
  connection : Node := .blank
  /-- The authentication tag as it stands. -/
  authentication : Option String := none
  /-- Entries that are not understood. -/
  other : Document := ∅
  deriving DecidableEq

/-- The portals of a target, by address. -/
abbrev PortalTable := Keyed PortalRecord

/-- What is kept about a target. -/
structure TargetRecord where
  /-- The encoded `Target`. -/
  target : Option Node := none
  /-- The encoded `Session`. -/
  session : Option Node := none
  /-- The authentication tag as it stands. -/
  authentication : Option String := none
  /-- The portals, once there is a list of them. -/
  portals : Option PortalTable := none
  /-- Entries that are not understood. -/
  other : Document := ∅
  deriving DecidableEq

/-- All configured targets, by name. -/
abbrev TargetTable := Keyed TargetRecord

/-- What is kept about the initiator itself. -/
structure InitiatorRecord where
  /-- The qualified name, empty until it is set. -/
  name : String := ""
  /-- The alias, empty until it is set. -/
  aliasName : String := ""
  /-- The authentication tag as it stands. -/
  authentication : Option String := none
  /-- Entries that are not understood. -/
  other : Document := ∅
  deriving DecidableEq

/-! ### Entries that are understood, and the others -/

/-- The authentication tag of a mapping. -/
def authTag? (m : Document) : Option String := (m.get? authenticationKey).bind Node.text?

/-- The entries of a mapping that are not understood, given the keys of those that are beside the
authentication tag. -/
def otherEntries (known : List String) (m : Document) : Document :=
  m.filter fun k n => !known.contains k && (k ≠ authenticationKey || n.text?.isNone)

/-! ### Portals of a target -/

namespace PortalRecord

/-- The key of the encoded `Portal`. -/
def portalKey : String := "Portal Data"

/-- The key of the encoded `Connection`. -/
def connectionKey : String := "Connection Configuration"

/-- The keys that are understood beside the authentication tag. -/
def knownKeys : List String := [portalKey, connectionKey]

/-- The mapping of a record. -/
def entries (r : PortalRecord) : Document :=
  let m := (r.other.insert portalKey r.portal).insert connectionKey r.connection
  match r.authentication with
  | some tag => m.insert authenticationKey (.scalar tag)
  | none => if m.contains authenticationKey then m else m.insert authenticationKey .blank

/-- The record of a mapping. -/
def ofEntries (m : Document) : PortalRecord where
  portal := (m.get? portalKey).getD .blank
  connection := (m.get? connectionKey).getD .blank
  authentication := authTag? m
  other := otherEntries knownKeys m

instance : NodeCodec PortalRecord where
  toNode r := .mapping r.entries
  ofNode? n := n.entries?.map ofEntries

end PortalRecord

/-! ### Targets -/

namespace TargetRecord

/-- The key of the encoded `Target`. -/
def targetKey : String := "Target Data"

/-- The key of the encoded `Session`. -/
def sessionKey : String := "Session Configuration"

/-- The key of the portals. -/
def portalsKey : String := "Portals"

/-- The keys that are understood beside the authentication tag. -/
def knownKeys : List String := [targetKey, sessionKey, portalsKey]

/-- The method that the authentication tag names. -/
def authMethod? (r : TargetRecord) : Option AuthMethod :=
  r.authentication.bind AuthMethod.ofTag?

/-- The mapping of a record. -/
def entries (r : TargetRecord) : Document :=
  (((r.other.insertSome targetKey r.target).insertSome sessionKey r.session).insertSome
    authenticationKey (r.authentication.map .scalar)).insertSome portalsKey (r.portals.map toNode)

/-- The record of a mapping. -/
def ofEntries (m : Document) : TargetRecord where
  target := m.get? targetKey
  session := m.get? sessionKey
  authentication := authTag? m
  portals := (m.get? portalsKey).bind ofNode?
  other := otherEntries knownKeys m

instance : NodeCodec TargetRecord where
  toNode r := .mapping r.entries
  ofNode? n := n.entries?.map ofEntries
  dropped n := ((n.get? portalsKey).map (dropped PortalTable)).getD []

end TargetRecord

/-! ### The initiator -/

namespace InitiatorRecord

/-- The key of the name. -/
def nameKey : String := "Name"

/-- The key of the alias. -/
def aliasKey : String := "Alias"

/-- The keys that are understood beside the authentication tag. -/
def knownKeys : List String := [nameKey, aliasKey]

/-- The method that the authentication tag names. -/
def authMethod? (r : InitiatorRecord) : Option AuthMethod :=
  r.authentication.bind AuthMethod.ofTag?

/-- The mapping of a record. -/
def entries (r : InitiatorRecord) : Document :=
  ((r.other.insert nameKey (.scalar r.name)).insert aliasKey (.scalar r.aliasName)).insertSome
    authenticationKey (r.authentication.map .scalar)

/-- The record of a mapping. -/
def ofEntries (m : Document) : InitiatorRecord where
  name := ((m.get? nameKey).bind Node.text?).getD ""
  aliasName := ((m.get? aliasKey).bind Node.text?).getD ""
  authentication := authTag? m
  other := otherEntries knownKeys m

instance : NodeCodec InitiatorRecord where
  toNode r := .mapping r.entries
  ofNode? n := n.entries?.map ofEntries

end InitiatorRecord

end InitiatorStore
