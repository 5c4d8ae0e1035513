import InitiatorStore.Proofs.Domain.Parameters
import InitiatorStore.Proofs.Store.Levels
import InitiatorStore.Store.Operation

/-!
# What setters leave

Five operations set a leaf of what is kept about a target or one of its portals: they are the
`Setting`s.  A setting changes the record of its target, which is made where there is none, and
marks the targets; this is all that it does to a store (`Setting.set_eq`).  So a leaf that has been
set is looked up as it reads back (`Store.targetData?_setTarget`, `Store.session?_setSession`,
`Store.portalData?_setPortal`, `Store.connection?_setConnection`).
-/

namespace InitiatorStore

/-- A leaf of what is kept about a target, and what it is set to. -/
inductive Setting
  | target (target : Target)
  | session (name : String) (session : Session)
  | auth (name : String) (auth : Auth)
  | portal (name : String) (portal : Portal)
  | connection (name address : String) (connection : Connection)
  deriving DecidableEq

namespace Setting

/-- The name of the target. -/
def name : Setting → String
  | .target t => t.name
  | .session name _ | .auth name _ | .portal name _ | .connection name _ _ => name

/-- The address of the portal, for a leaf of a portal. -/
def address? : Setting → Option String
  | .target _ | .session .. | .auth .. => none
  | .portal _ p => some p.address
  | .connection _ address _ => some address

/-- The operation that sets the leaf. -/
def op : Setting → StoreOp
  | .target t => .setTarget t
  | .session name c => .setSession name c
  | .auth name a => .setTargetAuth name a
  | .portal name p => .setPortal name p
  | .connection name address c => .setConnection name address c

/-- The getter of the leaf. -/
def getter : Setting → StoreOp
  | .target t => .targetData t.name
  | .session name _ => .session name
  | .auth name _ => .targetAuth name
  | .portal name p => .portalData name p.address
  | .connection name address _ => .connection name address

/-- What the getter answers where the leaf reads back. -/
def readBack : Setting → StoreAnswer
  | .target t => .targetData (ofNode? (toNode t))
  | .session _ c => .session (ofNode? (toNode c))
  | .auth _ a => .auth (some a)
  | .portal _ p => .portalData (ofNode? (toNode p))
  | .connection _ _ c => .connection (ofNode? (toNode c))

/-- What becomes of a store. -/
def set (s : Store) : Setting → Store
  | .target t => s.setTarget t
  | .session name c => s.setSession name c
  | .auth name a => s.setTargetAuth name a
  | .portal name p => s.setPortal name p
  | .connection name address c => s.setConnection name address c

/-- The credentials that come with the setting, if it has any. -/
def credentials? : Setting → Option Credentials
  | .auth _ (.chap c) => some c
  | _ => none

/-- What becomes of a vault. -/
def keep (v : Vault) (x : Setting) : Vault :=
  match x.credentials? with
  | some c => v.write x.name c
  | none => v

/-- What becomes of the record of the target. -/
def change : Setting → TargetRecord → TargetRecord
  | .target t, r => { r with target := some (toNode t) }
  | .session _ c, r => { r with session := some (toNode c) }
  | .auth _ a, r => { r with authentication := some a.method.tag }
  | .portal _ p, r => r.onPortal p.address fun q => { q with portal := toNode p }
  | .connection _ address c, r => r.onPortal address fun q => { q with connection := toNode c }

/-- What becomes of the targets: the record is changed, or a fresh one where there is none, and they
are marked. -/
def slot (x : Setting) (t : Slot TargetTable) : Slot TargetTable :=
  ⟨some (t.table.upsert x.name {} x.change), true⟩

variable (x : Setting) (s : Store) (v : Vault) (m : Medium)

theorem store_run : (x.op.run s v m).store = x.set s := by
  cases x <;> rfl

theorem vault_run : (x.op.run s v m).vault = x.keep v := by
  cases x with
  | auth name a => cases a <;> rfl
  | target | session | portal | connection => rfl

theorem medium_run : (x.op.run s v m).medium = m := by
  cases x <;> rfl

/-- A setting changes the record of its target and marks the targets. -/
theorem set_eq : x.set s = s.onTargets x.slot := by
  have hvalue : ∀ {value : Option TargetTable}, value = (x.slot s.cache.targets).value →
      s.onTargets (fun _ => ⟨value, true⟩) = s.onTargets x.slot :=
    fun h => congrArg (fun value => s.onTargets fun _ => ⟨value, true⟩) h
  cases x with
  | target | session | auth => exact hvalue (Slot.value_modifyTarget_ensureTarget ..)
  | portal | connection => exact hvalue (Slot.value_modifyPortal_ensurePortal ..)

theorem target?_set (name : String) : (x.set s).target? name =
    if name = x.name then some (x.change ((s.target? x.name).getD {})) else s.target? name := by
  have hrecord : (s.target? x.name).getD {} = s.cache.targets.record x.name :=
    (Slot.record_eq ..).symm
  rw [set_eq, hrecord]
  exact Slot.target?_of_value rfl name

theorem target?_set_self :
    (x.set s).target? x.name = some (x.change ((s.target? x.name).getD {})) :=
  (x.target?_set s x.name).trans (if_pos rfl)

end Setting

/-! ### Leaves that have been set -/

namespace Store

variable (s : Store) (name address : String)

theorem portal?_eq : s.portal? name address = (s.target? name).bind (·.portal? address) :=
  Slot.portal?_eq ..

theorem portal?_of_target? {s : Store} {name address : String} {r : TargetRecord}
    {f : PortalRecord → PortalRecord} (h : s.target? name = some (r.onPortal address f)) :
    s.portal? name address = some (f ((r.portal? address).getD {})) := by
  rw [portal?_eq, h]
  exact (r.portal?_onPortal address f address).trans (if_pos rfl)

/-- The domain data of a target that have been set are looked up as they read back. -/
theorem targetData?_setTarget (t : Target) :
    (s.setTarget t).targetData? t.name = ofNode? (toNode t) := by
  have htarget : (s.setTarget t).target? t.name = _ := (Setting.target t).target?_set_self s
  rw [targetData?, htarget]
  rfl

/-- Session parameters that have been set are looked up as they read back. -/
theorem session?_setSession (c : Session) :
    (s.setSession name c).session? name = ofNode? (toNode c) := by
  have htarget : (s.setSession name c).target? name = _ :=
    (Setting.session name c).target?_set_self s
  rw [session?, htarget]
  rfl

/-- The address data of a portal that have been set are looked up as they read back. -/
theorem portalData?_setPortal (p : Portal) :
    (s.setPortal name p).portalData? name p.address = ofNode? (toNode p) := by
  have hportal : (s.setPortal name p).portal? name p.address = _ :=
    portal?_of_target? ((Setting.portal name p).target?_set_self s)
  rw [portalData?, hportal]
  rfl

/-- Connection parameters that have been set are looked up again. -/
theorem connection?_setConnection (c : Connection) :
    (s.setConnection name address c).connection? name address = some c := by
  have hportal : (s.setConnection name address c).portal? name address = _ :=
    portal?_of_target? ((Setting.connection name address c).target?_set_self s)
  rw [connection?, hportal]
  exact Connection.ofNode?_toNode c

end Store

end InitiatorStore
