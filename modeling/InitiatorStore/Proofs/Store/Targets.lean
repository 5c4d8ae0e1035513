import InitiatorStore.Proofs.Cache
import InitiatorStore.Proofs.Store.Levels
import InitiatorStore.Proofs.Store.Operation

/-!
# Which targets there are

A look-up or a setter adds the targets that lead to its place and drops none, so that a target is
there until it is removed by name (`StoreOp.containsTarget_run`).  In a value of the targets a
target is what stands under its name as a mapping (`holdsTarget`): these are the targets of a value
that is read (`Cache.isSome_target?_load`), and those that are cached are of this kind when they are
written (`Cache.holdsTarget_node?`).
-/

namespace InitiatorStore

/-! ### Slots -/

namespace Slot

@[simp] theorem target?_ensure (s : Slot TargetTable) (name : String) :
    (s.ensure ∅).target? name = s.target? name := by
  obtain ⟨_ | table, modified⟩ := s <;> rfl

@[simp] theorem target?_modifyTarget (s : Slot TargetTable) (name : String)
    (f : TargetRecord → TargetRecord) (name' : String) :
    (s.modifyTarget name f).target? name' =
      if name' = name then (s.target? name').map f else s.target? name' := by
  obtain ⟨_ | table, modified⟩ := s
  · simp [modifyTarget, modify, target?]
  · simp only [modifyTarget, modify, target?, Option.map_some, Option.bind_some,
      Entries.get?_modify]

variable {s : Slot TargetTable} {name : String}

theorem isSome_target?_modifyTarget (s : Slot TargetTable) (name : String)
    (f : TargetRecord → TargetRecord) (name' : String) :
    ((s.modifyTarget name f).target? name').isSome = (s.target? name').isSome := by
  rw [target?_modifyTarget, apply_ite Option.isSome, Option.isSome_map, ite_self]

theorem isSome_target?_ensureTarget (h : (s.target? name).isSome = true) (name' : String) :
    ((s.ensureTarget name').target? name).isSome = true :=
  isSome_target?_of_value (s.value_ensureTarget name') h

theorem isSome_target?_ensurePortals (h : (s.target? name).isSome = true) (name' : String) :
    ((s.ensurePortals name').target? name).isSome = true :=
  isSome_target?_of_value (s.value_ensurePortals name') h

theorem isSome_target?_ensurePortal (h : (s.target? name).isSome = true)
    (name' address : String) : ((s.ensurePortal name' address).target? name).isSome = true :=
  isSome_target?_of_value (s.value_ensurePortal name' address) h

end Slot

/-! ### Operations -/

namespace Store

variable {s : Store} {name : String}

theorem containsTarget_removeTarget (s : Store) {name name' : String} (h : name ≠ name') :
    (s.removeTarget name').containsTarget name = s.containsTarget name := by
  unfold removeTarget
  split
  · rfl
  · next t ht =>
    have hvalue : s.cache.targets.value = some t := ht
    simp [containsTarget, target?, onTargets, Slot.target?, Slot.markIf, Slot.modify, hvalue, h]

theorem containsTarget_removePortal (s : Store) (name name' address : String) :
    (s.removePortal name' address).containsTarget name = s.containsTarget name := by
  unfold removePortal
  split
  · rfl
  · exact Slot.isSome_target?_modifyTarget _ name' _ name

end Store

namespace StoreOp

variable {op : StoreOp} {s : Store} {v : Vault} {m : Medium} {name : String}

/-- A target stays until it is removed, or the targets are read again. -/
theorem containsTarget_run (hop : op ≠ .synchronize) (hremove : op ≠ .removeTarget name)
    (h : s.containsTarget name = true) : (op.run s v m).store.containsTarget name = true := by
  have hslot : (s.cache.targets.target? name).isSome = true := h
  cases op with
  | synchronize => exact absurd rfl hop
  | targets create =>
    cases create with
    | false => exact h
    | true => exact (congrArg Option.isSome (Slot.target?_ensure _ name)).trans hslot
  | target name' create =>
    cases create with
    | false => exact h
    | true => exact Slot.isSome_target?_ensureTarget hslot name'
  | portals name' create =>
    cases create with
    | false => exact h
    | true => exact Slot.isSome_target?_ensurePortals hslot name'
  | portal name' address create =>
    cases create with
    | false => exact h
    | true => exact Slot.isSome_target?_ensurePortal hslot name' address
  | removeTarget name' =>
    have hne : name ≠ name' := fun heq => hremove (congrArg StoreOp.removeTarget heq.symm)
    exact (s.containsTarget_removeTarget hne).trans h
  | removePortal name' address => exact (s.containsTarget_removePortal name name' address).trans h
  | setSession | setTargetAuth | setTarget =>
    exact (Slot.isSome_target?_modifyTarget ..).trans (Slot.isSome_target?_ensureTarget hslot _)
  | setConnection | setPortal =>
    exact (Slot.isSome_target?_modifyTarget ..).trans (Slot.isSome_target?_ensurePortal hslot _ _)
  | secret | setSecret =>
    simp only [store_run_secret, store_run_setSecret]
    exact h
  | _ => exact h

end StoreOp

/-! ### Values of the targets -/

section

variable {α : Type} [NodeCodec α]

theorem get?_toNode (m : Keyed α) (k : String) : (toNode m).get? k = (m.get? k).map toNode :=
  Entries.get?_mapVals ..

/-- What is read of a mapping is what is read of its children. -/
theorem get?_ofNode? (n : Option Node) (k : String) :
    (n.bind (ofNode? : Node → Option (Keyed α))).bind (·.get? k) =
      (n.bind (·.get? k)).bind ofNode? := by
  rcases n with _ | text | entries
  · rfl
  · rfl
  · exact Entries.get?_filterMapVals ..

end

/-- Whether a value of the targets, if there is one, has a mapping under the name of a target. -/
def holdsTarget (value : Option Node) (name : String) : Bool :=
  ((value.bind (·.get? name)).bind Node.entries?).isSome

namespace Cache

variable {c c' : Cache}

theorem Agree.target?_eq (h : Agree .targets c c') (name : String) :
    c.targets.target? name = c'.targets.target? name :=
  congrArg (·.bind (·.get? name)) (show c.targets.value = c'.targets.value from h)

/-- What is written of a target. -/
theorem get?_node? (c : Cache) (name : String) :
    (c.node? .targets).bind (·.get? name) = (c.targets.target? name).map toNode := by
  unfold node? Slot.target?
  cases c.targets.value with
  | none => rfl
  | some table => exact get?_toNode table name

/-- What is read of a target. -/
theorem target?_load (c : Cache) (value : Option Node) (name : String) :
    (c.load .targets value).targets.target? name = (value.bind (·.get? name)).bind ofNode? :=
  get?_ofNode? value name

/-- The value that is written holds the targets that are cached. -/
theorem holdsTarget_node? (c : Cache) (name : String) :
    holdsTarget (c.node? .targets) name = (c.targets.target? name).isSome := by
  rw [holdsTarget, get?_node?]
  cases c.targets.target? name <;> rfl

/-- The targets of a value that is read are those that it holds. -/
theorem isSome_target?_load (c : Cache) (value : Option Node) (name : String) :
    ((c.load .targets value).targets.target? name).isSome = holdsTarget value name := by
  rw [target?_load, holdsTarget]
  -- an entry is read just if it is a mapping
  rcases value.bind (·.get? name) with _ | text | entries <;> rfl

end Cache

end InitiatorStore
