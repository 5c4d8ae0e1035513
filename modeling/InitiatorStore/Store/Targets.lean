import InitiatorStore.Domain.Connection
import InitiatorStore.Domain.Session
import InitiatorStore.Domain.Target
import InitiatorStore.Store.Basic

/-!
# Targets and portals

The targets lead to target records, a target record to a list of portals, and that to portal
records.  A look-up that is asked to create makes every level that is missing on the way, each with
nothing in it, and marks the targets as changed if a target record, a portal list or a portal record
was made.  What is there already is never replaced.

A setter makes the levels that lead to its place, writes the place and marks the targets.
-/

namespace InitiatorStore

/-! ### Levels of the table -/

namespace Slot

/-- The record of a target. -/
def target? (s : Slot TargetTable) (name : String) : Option TargetRecord :=
  s.value.bind (·.get? name)

/-- The portals of a target. -/
def portals? (s : Slot TargetTable) (name : String) : Option PortalTable :=
  (s.target? name).bind (·.portals)

/-- The record of a portal of a target. -/
def portal? (s : Slot TargetTable) (name address : String) : Option PortalRecord :=
  (s.portals? name).bind (·.get? address)

/-- Changes the record of a target, if there is one. -/
def modifyTarget (name : String) (f : TargetRecord → TargetRecord) (s : Slot TargetTable) :
    Slot TargetTable :=
  s.modify (·.modify name f)

/-- Changes the portals of a target, if there is a list of them. -/
def modifyPortals (name : String) (f : PortalTable → PortalTable) (s : Slot TargetTable) :
    Slot TargetTable :=
  s.modifyTarget name fun r => { r with portals := r.portals.map f }

/-- Changes the record of a portal, if there is one. -/
def modifyPortal (name address : String) (f : PortalRecord → PortalRecord)
    (s : Slot TargetTable) : Slot TargetTable :=
  s.modifyPortals name (·.modify address f)

/-- Makes the table and the record of a target, where they are missing. -/
def ensureTarget (name : String) (s : Slot TargetTable) : Slot TargetTable :=
  let s := s.ensure ∅
  match s.target? name with
  | some _ => s
  | none => (s.modify (·.insert name {})).mark

/-- Makes the portal list of a target and all that leads to it, where they are missing. -/
def ensurePortals (name : String) (s : Slot TargetTable) : Slot TargetTable :=
  let s := s.ensureTarget name
  match s.portals? name with
  | some _ => s
  | none => (s.modifyTarget name fun r => { r with portals := some ∅ }).mark

/-- Makes the record of a portal and all that leads to it, where they are missing. -/
def ensurePortal (name address : String) (s : Slot TargetTable) : Slot TargetTable :=
  let s := s.ensurePortals name
  match s.portal? name address with
  | some _ => s
  | none => (s.modifyPortals name (·.insert address {})).mark

end Slot

namespace Store

variable (s : Store)

/-! ### Look-ups -/

/-- All targets. -/
def targets? : Option TargetTable := s.cache.targets.value

/-- The record of a target. -/
def target? (name : String) : Option TargetRecord := s.cache.targets.target? name

/-- The portals of a target. -/
def portals? (name : String) : Option PortalTable := s.cache.targets.portals? name

/-- The record of a portal of a target. -/
def portal? (name address : String) : Option PortalRecord := s.cache.targets.portal? name address

/-- The store with the table of targets, which is made if `create` is set. -/
def withTargets (create : Bool) : Store := s.onTargets fun t => t.ensureIf create ∅

/-- The store with the record of a target, which is made if `create` is set. -/
def withTarget (name : String) (create : Bool) : Store :=
  if create then s.onTargets (·.ensureTarget name) else s

/-- The store with the portal list of a target, which is made if `create` is set. -/
def withPortals (name : String) (create : Bool) : Store :=
  if create then s.onTargets (·.ensurePortals name) else s

/-- The store with the record of a portal, which is made if `create` is set. -/
def withPortal (name address : String) (create : Bool) : Store :=
  if create then s.onTargets (·.ensurePortal name address) else s

/-! ### Removal -/

/-- Removes a target and all that is under it.  Without a table of targets nothing happens. -/
def removeTarget (name : String) : Store :=
  match s.targets? with
  | none => s
  | some t =>
    s.onTargets fun slot =>
      (slot.modify (·.erase name)).markIf (s.removal.marks (t.contains name))

/-- Removes a portal of a target.  Without a portal list of the target nothing happens. -/
def removePortal (name address : String) : Store :=
  match s.portals? name with
  | none => s
  | some t =>
    s.onTargets fun slot =>
      (slot.modifyPortals name (·.erase address)).markIf (s.removal.marks (t.contains address))

/-- What is reported of the removal of a target. -/
def removeTargetNotices (name : String) : List Notice :=
  (s.targets?.map fun t => Notice.targetRemoved name (t.contains name)).toList

/-- What is reported of the removal of a portal. -/
def removePortalNotices (name address : String) : List Notice :=
  ((s.portals? name).map fun t => Notice.portalRemoved address name (t.contains address)).toList

/-! ### Getters and setters -/

/-- The session parameters of a target. -/
def session? (name : String) : Option Session :=
  (s.target? name).bind fun r => r.session.bind ofNode?

/-- Sets the session parameters of a target. -/
def setSession (name : String) (session : Session) : Store :=
  s.onTargets fun t => ((t.ensureTarget name).modifyTarget name
    fun r => { r with session := some (toNode session) }).mark

/-- The connection parameters of a portal. -/
def connection? (name address : String) : Option Connection :=
  (s.portal? name address).bind fun r => ofNode? r.connection

/-- Sets the connection parameters of a portal. -/
def setConnection (name address : String) (connection : Connection) : Store :=
  s.onTargets fun t => ((t.ensurePortal name address).modifyPortal name address
    fun r => { r with connection := toNode connection }).mark

/-- The address data of a portal. -/
def portalData? (name address : String) : Option Portal :=
  (s.portal? name address).bind fun r => ofNode? r.portal

/-- Sets the address data of a portal, which is filed under its address. -/
def setPortal (name : String) (portal : Portal) : Store :=
  s.onTargets fun t => ((t.ensurePortal name portal.address).modifyPortal name portal.address
    fun r => { r with portal := toNode portal }).mark

/-- The domain data of a target. -/
def targetData? (name : String) : Option Target :=
  (s.target? name).bind fun r => r.target.bind ofNode?

/-- Sets the domain data of a target, which is filed under its name. -/
def setTarget (target : Target) : Store :=
  s.onTargets fun t => ((t.ensureTarget target.name).modifyTarget target.name
    fun r => { r with target := some (toNode target) }).mark

/-! ### Enumeration -/

/-- The keys of a map, in ascending order; `none` if there are none. -/
def keys? {α : Type} (m : Keyed α) : Option (List String) :=
  if m.isEmpty then none else some m.keys

/-- The names of all targets, or `none` if there are none. -/
def targetNames? : Option (List String) := s.targets?.bind keys?

/-- The addresses of all portals of a target, or `none` if there are none. -/
def portalAddresses? (name : String) : Option (List String) := (s.portals? name).bind keys?

/-- Whether a target is configured. -/
def containsTarget (name : String) : Bool := (s.target? name).isSome

/-- Whether a portal of a target is configured. -/
def containsPortal (name address : String) : Bool := (s.portal? name address).isSome

end Store

end InitiatorStore
