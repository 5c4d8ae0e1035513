import InitiatorStore.Proofs.Domain.Filing
import InitiatorStore.Proofs.Store.Levels
import InitiatorStore.Proofs.Store.Sound

/-!
# Records are filed under their own keys

A target is filed under its name and a portal under its address, and each carries its key itself.
That the two are the same (`Slot.Filed`) is kept by every operation on a store
(`StoreOp.filed_run`): a setter files what it is given under its own key, and a synchronization
brings in what it finds in the document, which is filed as long as all that is written there is
(`Medium.Filed`).
-/

namespace InitiatorStore

/-! ### Records -/

/-- A portal record is filed under an address if the portal it holds, if any, has that address. -/
def PortalRecord.Filed (address : String) (r : PortalRecord) : Prop :=
  ∀ p : Portal, ofNode? r.portal = some p → p.address = address

/-- A target record is filed under a name if the target it holds, if any, has that name, and its
portals are filed under their addresses. -/
structure TargetRecord.Filed (name : String) (r : TargetRecord) : Prop where
  target : ∀ t : Target, r.target.bind ofNode? = some t → t.name = name
  portals : ∀ t, r.portals = some t → t.All PortalRecord.Filed

theorem PortalRecord.filed_fresh (address : String) : PortalRecord.Filed address {} := nofun

theorem TargetRecord.filed_fresh (name : String) : TargetRecord.Filed name {} := ⟨nofun, nofun⟩

theorem TargetRecord.Filed.onPortals {name : String} {r : TargetRecord} (h : r.Filed name)
    {f : PortalTable → PortalTable}
    (hf : ∀ t, t.All PortalRecord.Filed → (f t).All PortalRecord.Filed) :
    (r.onPortals f).Filed name := by
  refine ⟨h.target, fun t ht => ?_⟩
  obtain rfl := Option.some.inj ht
  exact hf _ (Entries.all_getD h.portals)

/-- All targets are filed under their names. -/
abbrev TargetTable.Filed (t : TargetTable) : Prop := t.All TargetRecord.Filed

/-! ### Levels of the table -/

namespace Slot

variable {s : Slot TargetTable} {name address : String}

/-- The targets of a slot, if it has a table of them, are filed under their names. -/
def Filed (s : Slot TargetTable) : Prop := ∀ t, s.value = some t → TargetTable.Filed t

theorem Filed.target? (h : s.Filed) {r : TargetRecord} (hr : s.target? name = some r) :
    r.Filed name := by
  obtain ⟨t, ht, hr⟩ := Option.bind_eq_some_iff.1 hr
  exact h t ht name r hr

theorem Filed.portal? (h : s.Filed) {r : PortalRecord} (hr : s.portal? name address = some r) :
    r.Filed address := by
  obtain ⟨t, ht, hr⟩ := Option.bind_eq_some_iff.1 hr
  obtain ⟨record, hrecord, ht⟩ := Option.bind_eq_some_iff.1 ht
  exact (h.target? hrecord).portals t ht address r hr

theorem Filed.modify (h : s.Filed) {f : TargetTable → TargetTable}
    (hf : ∀ t, TargetTable.Filed t → TargetTable.Filed (f t)) : (s.modify f).Filed := by
  intro t ht
  obtain ⟨t', ht', rfl⟩ := Option.map_eq_some_iff.1 ht
  exact hf t' (h t' ht')

theorem Filed.table (h : s.Filed) : TargetTable.Filed s.table := Entries.all_getD h

theorem Filed.ensure (h : s.Filed) : (s.ensure ∅).Filed := by
  intro t ht
  obtain rfl := Option.some.inj ht
  exact h.table

theorem Filed.modifyTarget (h : s.Filed) {f : TargetRecord → TargetRecord}
    (hf : ∀ r, TargetRecord.Filed name r → TargetRecord.Filed name (f r)) :
    (s.modifyTarget name f).Filed :=
  h.modify fun _ ht => ht.modify hf

theorem Filed.modifyPortals (h : s.Filed) {f : PortalTable → PortalTable}
    (hf : ∀ t, t.All PortalRecord.Filed → (f t).All PortalRecord.Filed) :
    (s.modifyPortals name f).Filed := by
  refine h.modifyTarget fun r hr => ⟨hr.target, fun t ht => ?_⟩
  obtain ⟨t', ht', rfl⟩ := Option.map_eq_some_iff.1 ht
  exact hf t' (hr.portals t' ht')

theorem Filed.modifyPortal (h : s.Filed) {f : PortalRecord → PortalRecord}
    (hf : ∀ r, PortalRecord.Filed address r → PortalRecord.Filed address (f r)) :
    (s.modifyPortal name address f).Filed :=
  h.modifyPortals fun _ ht => ht.modify hf

/-- A slot is filed that is left with a record changed in a way that keeps it filed. -/
theorem Filed.of_value {t : Slot TargetTable} {f : TargetRecord → TargetRecord} (h : s.Filed)
    (hf : ∀ r, TargetRecord.Filed name r → TargetRecord.Filed name (f r))
    (hvalue : t.value = some (s.table.upsert name {} f)) : t.Filed := by
  intro table htable
  obtain rfl := Option.some.inj (hvalue.symm.trans htable)
  exact h.table.upsert (TargetRecord.filed_fresh name) hf

theorem Filed.ensureTarget (h : s.Filed) : (s.ensureTarget name).Filed :=
  h.of_value (fun _ hr => hr) (s.value_ensureTarget name)

theorem Filed.ensurePortals (h : s.Filed) : (s.ensurePortals name).Filed :=
  h.of_value (fun _ hr => hr.onPortals fun _ ht => ht) (s.value_ensurePortals name)

theorem Filed.ensurePortal (h : s.Filed) : (s.ensurePortal name address).Filed := by
  refine h.of_value (fun _ hr => hr.onPortals fun _ ht => ?_) (s.value_ensurePortal name address)
  exact ht.upsert (PortalRecord.filed_fresh address) fun _ hq => hq

end Slot

/-! ### Operations -/

namespace StoreOp

variable {op : StoreOp} {s : Store} {v : Vault} {m : Medium}

/-- No operation but a synchronization files a record under a key that is not its own. -/
theorem filed_run_of_ne (hop : op ≠ .synchronize) (h : s.cache.targets.Filed) :
    (op.run s v m).store.cache.targets.Filed := by
  cases op with
  | synchronize => exact absurd rfl hop
  | targets create =>
    cases create with
    | false => exact h
    | true => exact h.ensure
  | target name create =>
    cases create with
    | false => exact h
    | true => exact h.ensureTarget
  | portals name create =>
    cases create with
    | false => exact h
    | true => exact h.ensurePortals
  | portal name address create =>
    cases create with
    | false => exact h
    | true => exact h.ensurePortal
  | removeTarget name =>
    simp only [run, Store.removeTarget]
    split
    · exact h
    · exact h.modify fun _ ht => ht.erase name
  | removePortal name address =>
    simp only [run, Store.removePortal]
    split
    · exact h
    · exact h.modifyPortals fun _ ht => ht.erase address
  | setSession | setTargetAuth =>
    exact h.ensureTarget.modifyTarget fun _ hr => ⟨hr.target, hr.portals⟩
  | setConnection => exact h.ensurePortal.modifyPortal fun _ hr => hr
  | setTarget t =>
    refine h.ensureTarget.modifyTarget fun _ hr => ⟨?_, hr.portals⟩
    exact fun _ => Target.name_of_ofNode?_toNode
  | setPortal name p =>
    exact h.ensurePortal.modifyPortal fun _ _ _ => Portal.address_of_ofNode?_toNode
  | secret | setSecret =>
    simp only [store_run_secret, store_run_setSecret]
    exact h
  | _ => exact h

end StoreOp

/-! ### Values and documents -/

/-- Values that are alike satisfy the same conditions on their keys. -/
theorem Entries.All.of_alike {α : Type} {P : String → α → Prop} {R : α → α → Prop} {m n : Keyed α}
    (h : All P m) (halike : Alike R m n) (hR : ∀ k v w, R v w → P k v → P k w) : All P n := by
  intro k w hw
  have hk := halike k
  rw [hw] at hk
  generalize hv : m.get? k = a at hk
  cases hk with
  | some hvw => exact hR k _ w hvw (h k _ hv)

theorem PortalRecord.Filed.of_encoded {address : String} {p q : PortalRecord}
    (halike : Likeness.encoded.portal p q) (h : p.Filed address) : q.Filed address := by
  rw [Filed, ← portal_eq_of_encoded halike]
  exact h

theorem TargetRecord.Filed.of_encoded {name : String} {r s : TargetRecord}
    (halike : Likeness.encoded.target r s) (h : r.Filed name) : s.Filed name := by
  constructor
  · rw [← target_eq_of_encoded halike]
    exact h.target
  · intro t ht
    have hportals := Likeness.kept_encoded.portals halike
    rw [ht] at hportals
    generalize hr : r.portals = a at hportals
    cases hportals with
    | some hportals =>
      exact (h.portals _ hr).of_alike hportals fun _ _ _ => PortalRecord.Filed.of_encoded

/-- The targets in a value of theirs, if it can be read, are filed under their names. -/
def FiledValue (n : Option Node) : Prop := ∀ t : TargetTable, n.bind ofNode? = some t → t.Filed

theorem filedValue_none : FiledValue none := nofun

/-- What is filed can be written and read again. -/
theorem filedValue_node? {c : Cache} (h : c.targets.Filed)
    (htidy : Cache.AlikeAt Likeness.encoded .targets c c) : FiledValue (c.node? .targets) := by
  intro u hu
  have halike : Option.Rel (Entries.Alike Likeness.encoded.target) c.targets.value
      ((c.node? .targets).bind ofNode?) := htidy.load_node? c
  rw [hu] at halike
  generalize hvalue : c.targets.value = a at halike
  cases halike with
  | some halike => exact (h _ hvalue).of_alike halike fun _ _ _ => TargetRecord.Filed.of_encoded

/-- The targets in each document of a medium are filed under their names. -/
def Medium.Filed (m : Medium) : Prop :=
  ∀ d, m.Holds d → FiledValue (d.get? Namespace.targets.key)

theorem Medium.Filed.of_read {m : Medium} {d : Document} (h : m.Filed) (hread : m.read = .ok d) :
    FiledValue (d.get? Namespace.targets.key) := by
  rcases m.holds_of_read hread with rfl | hd
  · exact filedValue_none
  · exact h d hd

/-! ### Synchronizing -/

namespace Store

variable {s : Store} {m : Medium} {y : Sync}

/-- A synchronization writes what is filed, and reads what was written. -/
theorem Synchronizes.filed (h : Synchronizes s m y) (hs : s.Sound m)
    (hcache : s.cache.targets.Filed) (hm : m.Filed) :
    y.medium.Filed ∧ y.store.cache.targets.Filed := by
  have hmedium : y.medium.Filed := by
    intro d' hd'
    rcases h.holds hs.covered hd' with hd | ⟨d, hread, hflushed⟩
    · exact hm d' hd
    · by_cases hns : s.isModified .targets = true
      · rw [hflushed.written .targets hns]
        exact filedValue_node? hcache (hs.tidy.at .targets)
      · have hother : ∀ ns, s.isModified ns = true → Namespace.targets.key ≠ ns.key := by
          intro ns hns' hkey
          obtain rfl := Namespace.key_injective hkey
          exact hns hns'
        rw [hflushed.kept _ hother]
        exact hm.of_read hread
  refine ⟨hmedium, ?_⟩
  intro t ht
  rcases h.agree_cases .targets with hagree | ⟨d, hread, hagree⟩
  · have hvalue : y.store.cache.targets.value = s.cache.targets.value := hagree
    exact hcache t (hvalue ▸ ht)
  · have hvalue : y.store.cache.targets.value =
        (d.get? Namespace.targets.key).bind ofNode? := hagree
    exact hmedium.of_read hread t (hvalue ▸ ht)

end Store

/-- No operation puts keys and contents out of step, in the caches or in the medium. -/
theorem StoreOp.filed_run {s : Store} {m : Medium} (hs : s.Sound m)
    (hcache : s.cache.targets.Filed) (hm : m.Filed) (op : StoreOp) (v : Vault) :
    (op.run s v m).medium.Filed ∧ (op.run s v m).store.cache.targets.Filed := by
  by_cases hop : op = .synchronize
  · subst hop
    rw [run_synchronize]
    exact (s.synchronizes m).filed hs hcache hm
  · rw [medium_run hop]
    exact ⟨hm, filed_run_of_ne hop hcache⟩

end InitiatorStore
