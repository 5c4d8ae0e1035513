import InitiatorStore.Proofs.Store.Runs
import InitiatorStore.Proofs.Store.Settings
import InitiatorStore.Proofs.Store.Targets
import InitiatorStore.Proofs.Store.Vault

/-!
# Edits that are apart commute

Setting a leaf and removing a target or a portal are the edits of the targets.  Each has a place,
the keys that lead to what it edits, and two edits are apart if neither place is the other one or
contains it (`Apart`).  Two edits that are apart may be made in either order (`Edit.runAll_comm`),
and so may any number of edits that are all apart from one another (`Edit.runAll_perm`).

What an edit makes of the targets is told by three equations: it changes the record of one target
(`Edit.target?_slot`), it may make the table (`Edit.isSome_slot`), and it may mark the targets
(`Edit.modified_slot`).  The last is the one to look at, as a removal may mark only if it finds
something.  What it finds is not changed by a removal that is apart (`Edit.marks_slot`).  It may be
changed by a setter, which makes the list where a portal is looked for, but a setter marks in any
case (`Edit.marks_of_makes`).
-/

namespace InitiatorStore

/-! ### Places -/

/-- Two places are apart if neither is the other one or contains it. -/
def Apart (p q : List String) : Prop := ¬ p <+: q ∧ ¬ q <+: p

instance (p q : List String) : Decidable (Apart p q) := inferInstanceAs (Decidable (_ ∧ _))

theorem Apart.symm {p q : List String} (h : Apart p q) : Apart q p := ⟨h.2, h.1⟩

theorem Apart.ne {p q : List String} (h : Apart p q) : p ≠ q := by
  rintro rfl
  exact h.1 List.prefix_rfl

/-- The keys that lead to the leaf, from the name of the target on. -/
def Setting.place : Setting → List String
  | .target t => [t.name, TargetRecord.targetKey]
  | .session name _ => [name, TargetRecord.sessionKey]
  | .auth name _ => [name, authenticationKey]
  | .portal name p => [name, TargetRecord.portalsKey, p.address, PortalRecord.portalKey]
  | .connection name address _ =>
    [name, TargetRecord.portalsKey, address, PortalRecord.connectionKey]

/-- An edit of the targets: a leaf is set, or a target or a portal is removed as a whole. -/
inductive Edit
  | set (setting : Setting)
  | removeTarget (name : String)
  | removePortal (name address : String)
  deriving DecidableEq

namespace Edit

/-- The name of the target. -/
def name : Edit → String
  | .set x => x.name
  | .removeTarget name | .removePortal name _ => name

/-- The operation that makes the edit. -/
def op : Edit → StoreOp
  | .set x => x.op
  | .removeTarget name => .removeTarget name
  | .removePortal name address => .removePortal name address

/-- The keys that lead to what is edited. -/
def place : Edit → List String
  | .set x => x.place
  | .removeTarget name => [name]
  | .removePortal name address => [name, TargetRecord.portalsKey, address]

end Edit

/-! ### Records -/

namespace TargetRecord

/-- Drops a portal. -/
def dropPortal (address : String) (r : TargetRecord) : TargetRecord :=
  { r with portals := r.portals.map (Entries.erase address) }

variable (r : TargetRecord) {address address' : String} {f g : PortalRecord → PortalRecord}

theorem onPortal_comm (h : address = address' → ∀ q, f (g q) = g (f q)) :
    (r.onPortal address' g).onPortal address f = (r.onPortal address f).onPortal address' g :=
  congrArg (fun t => { r with portals := some t }) (Entries.upsert_comm h)

theorem onPortal_dropPortal (h : address ≠ address') :
    (r.dropPortal address').onPortal address f = (r.onPortal address f).dropPortal address' := by
  have herase : (r.portals.map (Entries.erase address')).getD ∅ =
      (r.portals.getD ∅).erase address' := by
    cases r.portals <;> rfl
  rw [onPortal, onPortals, dropPortal, herase, Entries.upsert_erase h]
  rfl

theorem dropPortal_comm (address address' : String) :
    (r.dropPortal address').dropPortal address = (r.dropPortal address).dropPortal address' := by
  have hportals : (r.portals.map (Entries.erase address')).map (Entries.erase address) =
      (r.portals.map (Entries.erase address)).map (Entries.erase address') := by
    cases r.portals with
    | none => rfl
    | some t => exact congrArg some (Entries.erase_comm ..)
  exact congrArg (fun t => { r with portals := t }) hportals

end TargetRecord

namespace Setting

variable {x y : Setting}

/-- Settings of one target change its record in either order. -/
theorem change_comm (hname : x.name = y.name) (h : Apart x.place y.place) (r : TargetRecord) :
    x.change (y.change r) = y.change (x.change r) := by
  -- only leaves of one portal, and of two portals of the target, meet in one entry of the record
  cases x with
  | target t =>
    cases y with
    | target t' => exact absurd (congrArg (fun name => [name, TargetRecord.targetKey]) hname) h.ne
    | session | auth | portal | connection => rfl
  | session name c =>
    cases y with
    | session => exact absurd (congrArg (fun name => [name, TargetRecord.sessionKey]) hname) h.ne
    | target | auth | portal | connection => rfl
  | auth name a =>
    cases y with
    | auth => exact absurd (congrArg (fun name => [name, authenticationKey]) hname) h.ne
    | target | session | portal | connection => rfl
  | portal name p =>
    cases y with
    | target | session | auth => rfl
    | portal name' p' =>
      refine r.onPortal_comm fun haddress => absurd ?_ h.ne
      obtain rfl : name = name' := hname
      exact congrArg (fun a => [name, TargetRecord.portalsKey, a, PortalRecord.portalKey]) haddress
    | connection => exact r.onPortal_comm fun _ _ => rfl
  | connection name address c =>
    cases y with
    | target | session | auth => rfl
    | portal => exact r.onPortal_comm fun _ _ => rfl
    | connection name' address' c' =>
      refine r.onPortal_comm fun haddress => absurd ?_ h.ne
      obtain rfl : name = name' := hname
      obtain rfl := haddress
      rfl

theorem change_dropPortal {name address : String} (hname : x.name = name)
    (h : Apart x.place (Edit.removePortal name address).place) (r : TargetRecord) :
    x.change (r.dropPortal address) = (x.change r).dropPortal address := by
  subst hname
  cases x with
  | target | session | auth => rfl
  | portal name p =>
    refine r.onPortal_dropPortal fun haddress => h.2 ?_
    exact ⟨[PortalRecord.portalKey], by rw [← haddress]; rfl⟩
  | connection name address' c =>
    refine r.onPortal_dropPortal fun haddress => h.2 ?_
    exact ⟨[PortalRecord.connectionKey], by rw [← haddress]; rfl⟩

theorem place_of_credentials? {c : Credentials} (h : x.credentials? = some c) :
    x.place = [x.name, authenticationKey] := by
  cases x with
  | auth => rfl
  | target | session | portal | connection => cases h

theorem keep_comm (h : Apart x.place y.place) (v : Vault) :
    x.keep (y.keep v) = y.keep (x.keep v) := by
  simp only [keep]
  cases hx : x.credentials? with
  | none => rfl
  | some c =>
    cases hy : y.credentials? with
    | none => rfl
    | some c' =>
      refine Vault.write_comm (fun hname => h.ne ?_) v c' c
      rw [place_of_credentials? hx, place_of_credentials? hy, hname]

end Setting

/-! ### Slots -/

/-- A slot is told by whether it has a table, by its targets, and by its mark. -/
theorem Slot.ext_target? {s t : Slot TargetTable} (hvalue : s.value.isSome = t.value.isSome)
    (htarget : ∀ name, s.target? name = t.target? name) (hmodified : s.modified = t.modified) :
    s = t := by
  obtain ⟨_ | a, modified⟩ := s <;> obtain ⟨_ | b, modified'⟩ := t
  · obtain rfl : modified = modified' := hmodified
    rfl
  · cases hvalue
  · cases hvalue
  · obtain rfl : modified = modified' := hmodified
    obtain rfl : a = b := Entries.ext_get? htarget
    rfl

namespace Edit

variable {e e' : Edit} {removal : Removal} {t : Slot TargetTable}

/-- Whether an edit makes the table of targets where there is none. -/
def makes : Edit → Bool
  | .set _ => true
  | .removeTarget _ | .removePortal .. => false

/-- What becomes of the record of the target, if there is one. -/
def act : Edit → Option TargetRecord → Option TargetRecord
  | .set x, r => some (x.change (r.getD {}))
  | .removeTarget _, _ => none
  | .removePortal _ address, r => r.map (·.dropPortal address)

/-- Whether an edit marks the targets, given whether there is a table of them, and the record of the
target. -/
def marks (removal : Removal) (loaded : Bool) (r : Option TargetRecord) : Edit → Bool
  | .set _ => true
  | .removeTarget _ => loaded && removal.marks r.isSome
  | .removePortal _ address =>
    ((r.bind (·.portals)).map fun t => removal.marks (t.contains address)).getD false

/-- What becomes of the targets. -/
def slot (removal : Removal) (e : Edit) (t : Slot TargetTable) : Slot TargetTable :=
  let marks := e.marks removal t.value.isSome (t.target? e.name)
  match e with
  | .set x => x.slot t
  | .removeTarget name => (t.modify (·.erase name)).markIf marks
  | .removePortal name address => (t.modifyPortals name (·.erase address)).markIf marks

theorem slot_removeTarget_of_none {name : String} (h : t.value = none) :
    (removeTarget name).slot removal t = t := by
  obtain ⟨value, modified⟩ := t
  obtain rfl : value = none := h
  exact congrArg (Slot.mk none) (Bool.or_false modified)

theorem slot_removeTarget_of_some {name : String} {table : TargetTable}
    (h : t.value = some table) : (removeTarget name).slot removal t =
      (t.modify (·.erase name)).markIf (removal.marks (table.contains name)) := by
  have hmarks : (removeTarget name).marks removal t.value.isSome (t.target? name) =
      removal.marks (table.contains name) := by
    rw [Slot.target?, h]
    rfl
  exact congrArg (Slot.markIf · (t.modify (·.erase name))) hmarks

theorem slot_removePortal_of_none {name address : String} (h : t.portals? name = none) :
    (removePortal name address).slot removal t = t := by
  have hmarks : (removePortal name address).marks removal t.value.isSome (t.target? name) =
      false := by
    show ((t.portals? name).map _).getD false = false
    rw [h]
    rfl
  have hkept : t.modifyPortals name (·.erase address) = t :=
    Slot.modifyPortals_eq_self fun portals hportals => nomatch h.symm.trans hportals
  refine (congrArg (Slot.markIf · (t.modifyPortals name (·.erase address))) hmarks).trans ?_
  rw [hkept, Slot.markIf, Bool.or_false]

theorem slot_removePortal_of_some {name address : String} {portals : PortalTable}
    (h : t.portals? name = some portals) : (removePortal name address).slot removal t =
      (t.modifyPortals name (·.erase address)).markIf
        (removal.marks (portals.contains address)) := by
  have hmarks : (removePortal name address).marks removal t.value.isSome (t.target? name) =
      removal.marks (portals.contains address) := by
    show ((t.portals? name).map _).getD false = _
    rw [h]
    rfl
  exact congrArg (Slot.markIf · (t.modifyPortals name (·.erase address))) hmarks

theorem target?_slot (removal : Removal) (e : Edit) (t : Slot TargetTable) (name : String) :
    (e.slot removal t).target? name =
      if name = e.name then e.act (t.target? name) else t.target? name := by
  cases e with
  | set x =>
    have hvalue : (x.slot t).value = some (t.table.upsert x.name {} x.change) := rfl
    show (x.slot t).target? name =
      if name = x.name then some (x.change ((t.target? name).getD {})) else t.target? name
    rw [Slot.target?_of_value hvalue, Slot.record_eq]
    split
    · next hname => rw [hname]
    · rfl
  | removeTarget name' =>
    obtain ⟨_ | table, modified⟩ := t
    · exact (ite_self _).symm
    · exact Entries.get?_erase ..
  | removePortal name' address =>
    show (t.modifyPortals name' (·.erase address)).target? name =
      if name = name' then (t.target? name).map (·.dropPortal address) else t.target? name
    rw [Slot.modifyPortals, Slot.target?_modifyTarget]
    split
    · next hname =>
      rw [hname]
      rfl
    · rfl

theorem isSome_slot (removal : Removal) (e : Edit) (t : Slot TargetTable) :
    (e.slot removal t).value.isSome = (e.makes || t.value.isSome) := by
  cases e with
  | set => rfl
  | removeTarget | removePortal => exact Option.isSome_map ..

theorem modified_slot (removal : Removal) (e : Edit) (t : Slot TargetTable) :
    (e.slot removal t).modified =
      (t.modified || e.marks removal t.value.isSome (t.target? e.name)) := by
  cases e with
  | set => exact (Bool.or_true _).symm
  | removeTarget | removePortal => rfl

/-- Whether a removal finds its portal does not depend on the removal of another. -/
theorem marks_dropPortal {name address address' : String} (h : address ≠ address') (loaded : Bool)
    (r : Option TargetRecord) :
    (removePortal name address).marks removal loaded (r.map (·.dropPortal address')) =
      (removePortal name address).marks removal loaded r := by
  rcases r with _ | ⟨_, _, _, _ | t, _⟩
  · rfl
  · rfl
  · have hcontains : (t.erase address').contains address = t.contains address := by
      rw [Entries.contains, Entries.get?_erase, if_neg h]
      rfl
    exact congrArg removal.marks hcontains

theorem name_prefix_place (e : Edit) : [e.name] <+: e.place := by
  cases e with
  | set x => cases x <;> exact ⟨_, rfl⟩
  | removeTarget | removePortal => exact ⟨_, rfl⟩

/-- An edit that is apart from the removal of a target is one of another target. -/
theorem name_ne_of_apart {name : String} (h : Apart (removeTarget name).place e.place) :
    name ≠ e.name := by
  rintro rfl
  exact h.1 e.name_prefix_place

theorem act_set_removePortal {x : Setting} {name address : String} (hname : x.name = name)
    (h : Apart x.place (removePortal name address).place) (r : Option TargetRecord) :
    (set x).act ((removePortal name address).act r) =
      (removePortal name address).act ((set x).act r) := by
  have hdrop : (r.map (·.dropPortal address)).getD {} = (r.getD {}).dropPortal address := by
    cases r <;> rfl
  show some (x.change ((r.map (·.dropPortal address)).getD {})) = _
  rw [hdrop, Setting.change_dropPortal hname h]
  rfl

/-- Edits of one target change its record in either order. -/
theorem act_comm (hname : e.name = e'.name) (h : Apart e.place e'.place)
    (r : Option TargetRecord) : e.act (e'.act r) = e'.act (e.act r) := by
  cases e with
  | removeTarget => exact absurd hname (name_ne_of_apart h)
  | set x =>
    cases e' with
    | set y => exact congrArg some (Setting.change_comm hname h _)
    | removeTarget => exact absurd hname.symm (name_ne_of_apart h.symm)
    | removePortal => exact act_set_removePortal hname h r
  | removePortal name address =>
    cases e' with
    | set y => exact (act_set_removePortal hname.symm h.symm r).symm
    | removeTarget => exact absurd hname.symm (name_ne_of_apart h.symm)
    | removePortal name' address' =>
      cases r with
      | none => rfl
      | some r => exact congrArg some (r.dropPortal_comm address address')

/-- Whether an edit marks the targets does not depend on a removal that is apart. -/
theorem marks_slot (h : Apart e.place e'.place) (hmakes : e'.makes = false) (loaded : Bool) :
    e.marks removal loaded ((e'.slot removal t).target? e.name) =
      e.marks removal loaded (t.target? e.name) := by
  rw [target?_slot]
  split
  · next hname =>
    cases e with
    | set => rfl
    | removeTarget => exact absurd hname (name_ne_of_apart h)
    | removePortal name address =>
      cases e' with
      | set => cases hmakes
      | removeTarget => exact absurd hname.symm (name_ne_of_apart h.symm)
      | removePortal name' address' =>
        obtain rfl : name = name' := hname
        have haddress : address ≠ address' := fun heq => h.ne (heq ▸ rfl)
        exact marks_dropPortal haddress loaded _
  · rfl

theorem marks_of_makes (h : e.makes = true) (loaded : Bool) (r : Option TargetRecord) :
    e.marks removal loaded r = true := by
  cases e with
  | set => rfl
  | removeTarget | removePortal => cases h

/-- Edits that are apart make the same of the targets in either order. -/
theorem slot_comm (h : Apart e.place e'.place) (removal : Removal) (t : Slot TargetTable) :
    e.slot removal (e'.slot removal t) = e'.slot removal (e.slot removal t) := by
  refine Slot.ext_target? ?_ (fun name => ?_) ?_
  · simp only [isSome_slot, Bool.or_left_comm]
  · simp only [target?_slot]
    by_cases hname : name = e.name
    · by_cases hname' : name = e'.name
      · simp only [if_pos hname, if_pos hname', act_comm (hname.symm.trans hname') h]
      · simp only [if_pos hname, if_neg hname']
    · simp only [if_neg hname]
  · simp only [modified_slot, isSome_slot]
    cases hmakes : e.makes with
    | true => simp [marks_of_makes hmakes]
    | false =>
      cases hmakes' : e'.makes with
      | true => simp [marks_of_makes hmakes']
      | false =>
        rw [marks_slot h hmakes', marks_slot h.symm hmakes, Bool.or_right_comm]
        rfl

/-! ### Operations -/

/-- What becomes of a vault. -/
def keep (v : Vault) : Edit → Vault
  | .set x => x.keep v
  | .removeTarget _ | .removePortal .. => v

variable (e) (s : Store) (v : Vault) (m : Medium)

theorem vault_run : (e.op.run s v m).vault = e.keep v := by
  cases e with
  | set x => exact x.vault_run s v m
  | removeTarget | removePortal => rfl

/-- An edit changes the targets of a store and nothing else of it. -/
theorem store_run : (e.op.run s v m).store = s.onTargets (e.slot s.removal) := by
  have hcongr : ∀ {t : Slot TargetTable}, t = e.slot s.removal s.cache.targets →
      s.onTargets (fun _ => t) = s.onTargets (e.slot s.removal) :=
    fun h => congrArg (fun t => s.onTargets fun _ => t) h
  cases e with
  | set x => exact (x.store_run s v m).trans (x.set_eq s)
  | removeTarget name =>
    show s.removeTarget name = _
    unfold Store.removeTarget
    split
    · next hnone => exact hcongr (slot_removeTarget_of_none hnone).symm
    · next table htable => exact hcongr (slot_removeTarget_of_some htable).symm
  | removePortal name address =>
    show s.removePortal name address = _
    unfold Store.removePortal
    split
    · next hnone => exact hcongr (slot_removePortal_of_none hnone).symm
    · next portals hportals => exact hcongr (slot_removePortal_of_some hportals).symm

variable {e}

theorem keep_comm (h : Apart e.place e'.place) : e.keep (e'.keep v) = e'.keep (e.keep v) := by
  cases e with
  | removeTarget | removePortal => rfl
  | set x =>
    cases e' with
    | removeTarget | removePortal => rfl
    | set y => exact Setting.keep_comm h v

theorem runAll_swap (h : Apart e.place e'.place) (ops : List StoreOp) :
    StoreOp.runAll s v m (e.op :: e'.op :: ops) = StoreOp.runAll s v m (e'.op :: e.op :: ops) := by
  have hstores : (s.onTargets (e.slot s.removal)).onTargets (e'.slot s.removal) =
      (s.onTargets (e'.slot s.removal)).onTargets (e.slot s.removal) :=
    congrArg (fun t => s.onTargets fun _ => t) (slot_comm h.symm s.removal s.cache.targets)
  simp only [StoreOp.runAll, store_run, vault_run]
  rw [keep_comm v h]
  exact congrArg (StoreOp.runAll · _ m ops) hstores

/-- Edits that are all apart from one another may be made in any order. -/
theorem runAll_perm {es es' : List Edit} (hperm : es.Perm es')
    (h : es.Pairwise fun e e' => Apart e.place e'.place) :
    StoreOp.runAll s v m (es.map op) = StoreOp.runAll s v m (es'.map op) := by
  induction hperm generalizing s v with
  | nil => rfl
  | cons e _ ih => exact ih _ _ (List.pairwise_cons.1 h).2
  | swap e e' es =>
    exact runAll_swap s v m ((List.pairwise_cons.1 h).1 e (List.mem_cons_self ..)) _
  | trans hperm _ ih ih' => exact (ih s v h).trans (ih' s v (hperm.pairwise h Apart.symm))

/-- Two edits that are apart leave the same store and the same vault in either order. -/
theorem runAll_comm (h : Apart e.place e'.place) (s : Store) (v : Vault) (m : Medium) :
    StoreOp.runAll s v m [e.op, e'.op] = StoreOp.runAll s v m [e'.op, e.op] :=
  runAll_swap s v m h []

/-- A portal is set beside one that is removed and was never there.  Only one of the two removals
finds a list of portals. -/
theorem runAll_comm_siblings :
    let p : Portal := { address := "a" }
    Apart (set (.portal "t" p)).place (removePortal "t" "b").place ∧
      StoreOp.runAll {} {} .memory [.setPortal "t" p, .removePortal "t" "b"] =
        StoreOp.runAll {} {} .memory [.removePortal "t" "b", .setPortal "t" p] ∧
      (StoreOp.runAll {} {} .memory [.removePortal "t" "b"]).1 = {} ∧
      (StoreOp.runAll {} {} .memory [.removePortal "t" "b", .setPortal "t" p]).1.portalAddresses?
        "t" = some ["a"] := by
  intro p
  have hapart : Apart (set (.portal "t" p)).place (removePortal "t" "b").place := by decide
  exact ⟨hapart, runAll_comm hapart {} {} .memory, by decide, by decide⟩

end Edit

end InitiatorStore
