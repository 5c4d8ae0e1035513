import InitiatorStore.Domain.Portal

/-!
# Discovery records

A discovery record files the portals that were discovered: by target, then by portal group, then by
address.  Reading one accepts any mapping and keeps what it can use: each key is a target; a child
of a target is a portal group if it holds at least one portal; a portal is filed under its own
address, and of two with the same address the one under the greater key is kept.
-/

namespace InitiatorStore

/-- The portals of one portal group, by address. -/
abbrev PortalGroup := Keyed Portal

/-- Discovered targets with their portal groups. -/
structure DiscoveryRecord where
  /-- The portal groups of each target, by the group's tag. -/
  targets : Keyed (Keyed PortalGroup) := ∅
  deriving DecidableEq

namespace DiscoveryRecord

/-- The record of nothing. -/
def empty : DiscoveryRecord := {}

/-- Whether no target is on record. -/
def isEmpty (r : DiscoveryRecord) : Bool := r.targets.isEmpty

/-- Puts a target on record, without portals if it was not there yet. -/
def addTarget (r : DiscoveryRecord) (target : String) : DiscoveryRecord :=
  ⟨r.targets.insert target ((r.targets.get? target).getD ∅)⟩

/-- Puts a portal of a target on record, in a portal group and under the portal's address. -/
def addPortal (r : DiscoveryRecord) (target group : String) (portal : Portal) :
    DiscoveryRecord :=
  let groups := (r.targets.get? target).getD ∅
  let portals := (groups.get? group).getD ∅
  ⟨r.targets.insert target (groups.insert group (portals.insert portal.address portal))⟩

/-- The discovered targets, in ascending order. -/
def targetNames (r : DiscoveryRecord) : List String := r.targets.keys

/-- The portal groups of a target. -/
def groups? (r : DiscoveryRecord) (target : String) : Option (Keyed PortalGroup) :=
  r.targets.get? target

/-- All portals of a target, group by group. -/
def portals (r : DiscoveryRecord) (target : String) : List Portal :=
  ((r.groups? target).getD ∅).vals.flatMap Entries.vals

/-- The portals among the children of a node, each filed under its own address. -/
def groupOfNode (n : Node) : PortalGroup :=
  Entries.ofList ((((n.entries?).getD ∅).vals.filterMap ofNode?).map
    fun p : Portal => (p.address, p))

/-- The portal groups among the children of a node: those that hold a portal. -/
def groupsOfNode (n : Node) : Keyed PortalGroup :=
  ((n.entries?).getD ∅).filterMapVals fun child =>
    let portals := groupOfNode child
    if portals.isEmpty then none else some portals

instance : NodeCodec DiscoveryRecord where
  toNode r := .mapping (r.targets.mapVals fun groups =>
    .mapping (groups.mapVals fun portals => .mapping (portals.mapVals toNode)))
  ofNode? n := n.entries?.map fun m => ⟨m.mapVals groupsOfNode⟩

end DiscoveryRecord

end InitiatorStore
