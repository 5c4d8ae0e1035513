import InitiatorStore.Keyed.Lemmas
import InitiatorStore.Store.Targets

/-!
# The levels that lead to a place

A look-up that creates makes what is missing on the way to its place and leaves the rest as it is.
The table that it leaves is told in one equation for each of the three levels
(`Slot.value_ensureTarget`, `Slot.value_ensurePortals`, `Slot.value_ensurePortal`): it is the table
that was there with the record of the target changed, or a fresh record where there was none.
-/

namespace InitiatorStore

namespace TargetRecord

/-- Changes the portals of a target; where there is no list of them, an empty one is changed. -/
def onPortals (f : PortalTable → PortalTable) (r : TargetRecord) : TargetRecord :=
  { r with portals := some (f (r.portals.getD ∅)) }

/-- Changes the record of a portal; where there is none, a fresh one is changed. -/
def onPortal (address : String) (f : PortalRecord → PortalRecord) (r : TargetRecord) :
    TargetRecord :=
  r.onPortals (·.upsert address {} f)

/-- The record of a portal. -/
def portal? (r : TargetRecord) (address : String) : Option PortalRecord :=
  r.portals.bind (·.get? address)

variable {r : TargetRecord} {t : PortalTable} {address : String} {q : PortalRecord}

theorem portal?_eq (r : TargetRecord) (address : String) :
    r.portal? address = (r.portals.getD ∅).get? address :=
  Entries.bind_get? ..

/-- A list of portals that is made has no portal. -/
theorem portal?_onPortals_id (r : TargetRecord) (address : String) :
    (r.onPortals id).portal? address = r.portal? address :=
  (r.portal?_eq address).symm

theorem onPortals_id_of_none (h : r.portals = none) :
    r.onPortals id = { r with portals := some ∅ } := by
  rw [onPortals, h]
  rfl

/-- A list of portals that is there and is not changed stays. -/
theorem onPortals_id_of_some (h : r.portals = some t) : r.onPortals id = r := by
  obtain ⟨_, _, _, _, _⟩ := r
  obtain rfl : _ = some t := h
  rfl

theorem onPortal_id_of_none (h : r.portal? address = none) :
    r.onPortal address id = r.onPortals (·.insert address {}) := by
  rw [portal?_eq] at h
  rw [onPortal, onPortals, Entries.upsert_of_none h]
  rfl

/-- A portal that is there and is not changed stays. -/
theorem onPortal_id_of_some (h : r.portal? address = some q) :
    r.onPortal address id = r.onPortals id := by
  rw [portal?_eq] at h
  rw [onPortal, onPortals, Entries.upsert_id_of_some h]
  rfl

theorem portal?_onPortal (r : TargetRecord) (address : String) (f : PortalRecord → PortalRecord)
    (address' : String) : (r.onPortal address f).portal? address' =
      if address' = address then some (f ((r.portal? address).getD {}))
      else r.portal? address' := by
  rw [portal?_eq, portal?_eq, portal?_eq]
  exact Entries.get?_upsert ..

theorem modify_onPortal (r : TargetRecord) (address : String) (f g : PortalRecord → PortalRecord) :
    { r.onPortal address g with
      portals := (r.onPortal address g).portals.map (·.modify address f) } =
    r.onPortal address fun q => f (g q) := by
  show r.onPortals (fun t => (t.upsert address {} g).modify address f) = _
  simp only [Entries.modify_upsert]
  rfl

end TargetRecord

namespace Slot

variable (s : Slot TargetTable) (name address : String)

/-- The table of a slot, empty where there is none. -/
def table : TargetTable := s.value.getD ∅

/-- The record of a target, a fresh one where there is none. -/
def record : TargetRecord := (s.table.get? name).getD {}

theorem target?_eq : s.target? name = s.table.get? name := Entries.bind_get? ..

theorem record_eq : s.record name = (s.target? name).getD {} :=
  congrArg (·.getD {}) (s.target?_eq name).symm

theorem portal?_eq : s.portal? name address = (s.target? name).bind (·.portal? address) :=
  Option.bind_assoc ..

section

variable {s t : Slot TargetTable} {name : String} {f : TargetRecord → TargetRecord}

/-- The targets of a slot that is left with the record of one of them changed. -/
theorem target?_of_value (h : t.value = some (s.table.upsert name {} f)) (name' : String) :
    t.target? name' = if name' = name then some (f (s.record name)) else s.target? name' := by
  rw [target?_eq s, target?, h]
  exact Entries.get?_upsert ..

theorem target?_self_of_value (h : t.value = some (s.table.upsert name {} f)) :
    t.target? name = some (f (s.record name)) :=
  (target?_of_value h name).trans (if_pos rfl)

theorem isSome_target?_of_value (h : t.value = some (s.table.upsert name {} f)) {name' : String}
    (hname' : (s.target? name').isSome = true) : (t.target? name').isSome = true := by
  rw [target?_of_value h]
  split
  · rfl
  · exact hname'

end

/-- A target is made with a fresh record, and stays as it is if it is there. -/
theorem value_ensureTarget : (s.ensureTarget name).value = some (s.table.upsert name {} id) := by
  simp only [ensureTarget]
  split
  · next r hr => exact congrArg some (Entries.upsert_id_of_some hr).symm
  · next hnone =>
    have hmissing : s.table.get? name = none := hnone
    rw [Entries.upsert_of_none hmissing]
    rfl

/-- A list of portals is made empty, and stays as it is if it is there. -/
theorem value_ensurePortals :
    (s.ensurePortals name).value = some (s.table.upsert name {} (·.onPortals id)) := by
  have hvalue := s.value_ensureTarget name
  simp only [ensurePortals]
  split
  · next t ht =>
    rw [portals?, target?_self_of_value hvalue] at ht
    rw [hvalue]
    exact congrArg some (Entries.upsert_congr (TargetRecord.onPortals_id_of_some ht).symm)
  · next hnone =>
    rw [portals?, target?_self_of_value hvalue] at hnone
    show ((s.ensureTarget name).value.map _) = _
    rw [hvalue, Option.map_some, Entries.modify_upsert]
    exact congrArg some (Entries.upsert_congr (TargetRecord.onPortals_id_of_none hnone).symm)

/-- A portal is made with a fresh record, and stays as it is if it is there. -/
theorem value_ensurePortal : (s.ensurePortal name address).value =
    some (s.table.upsert name {} (·.onPortal address id)) := by
  have hvalue := s.value_ensurePortals name
  simp only [ensurePortal]
  split
  · next q hq =>
    rw [portal?_eq, target?_self_of_value hvalue, Option.bind_some,
      TargetRecord.portal?_onPortals_id] at hq
    rw [hvalue]
    exact congrArg some (Entries.upsert_congr (TargetRecord.onPortal_id_of_some hq).symm)
  · next hnone =>
    rw [portal?_eq, target?_self_of_value hvalue, Option.bind_some,
      TargetRecord.portal?_onPortals_id] at hnone
    show ((s.ensurePortals name).value.map _) = _
    rw [hvalue, Option.map_some, Entries.modify_upsert]
    exact congrArg some (Entries.upsert_congr (TargetRecord.onPortal_id_of_none hnone).symm)

/-! What a setter makes of the table: the record in its place is changed, whether it was there or
has just been made. -/

theorem value_modifyTarget_ensureTarget (f : TargetRecord → TargetRecord) :
    ((s.ensureTarget name).modifyTarget name f).value = some (s.table.upsert name {} f) := by
  show (s.ensureTarget name).value.map _ = _
  rw [value_ensureTarget, Option.map_some, Entries.modify_upsert]
  rfl

theorem value_modifyPortal_ensurePortal (f : PortalRecord → PortalRecord) :
    ((s.ensurePortal name address).modifyPortal name address f).value =
      some (s.table.upsert name {} (·.onPortal address f)) := by
  show (s.ensurePortal name address).value.map _ = _
  rw [value_ensurePortal, Option.map_some, Entries.modify_upsert]
  refine congrArg some (Entries.upsert_congr ?_)
  exact TargetRecord.modify_onPortal ..

end Slot

end InitiatorStore
