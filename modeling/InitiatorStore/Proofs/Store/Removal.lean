import InitiatorStore.Proofs.Store.Commutation
import InitiatorStore.Proofs.Store.Lookups

/-!
# What removals drop

A `Part` is a target, or a portal of a target.  Its removal drops the part with what stands under it
and nothing else: the container stays even if nothing is left in it (`Part.removed_op`).  What is
missing is missing until an operation makes it (`StoreOp.has_run`); a look-up that creates does, and
so does a setter.
-/

namespace InitiatorStore

/-- A target, or a portal of a target. -/
inductive Part
  | target (name : String)
  | portal (name address : String)
  deriving DecidableEq

namespace Part

/-- The removal of a part, as an edit of the targets. -/
def edit : Part → Edit
  | .target name => .removeTarget name
  | .portal name address => .removePortal name address

/-- The removal of a part. -/
def op (x : Part) : StoreOp := x.edit.op

/-- The level at which a part stands. -/
def level : Part → Level
  | .target name => .target name
  | .portal name address => .portal name address

/-- The level that a part is removed from. -/
def container : Part → Level
  | .target _ => .targets
  | .portal name _ => .portals name

theorem container_mem_path (x : Part) : x.container ∈ x.level.path := by
  cases x <;> simp [container, level, Level.path]

end Part

/-! ### The targets after a removal -/

namespace Edit

variable {removal : Removal} {t : Slot TargetTable} {name address : String}

theorem target?_slot_removeTarget (name' : String) :
    ((removeTarget name).slot removal t).target? name' =
      if name' = name then none else t.target? name' :=
  target?_slot ..

theorem portals?_slot_removeTarget (name' : String) :
    ((removeTarget name).slot removal t).portals? name' =
      if name' = name then none else t.portals? name' := by
  rw [Slot.portals?, target?_slot_removeTarget]
  split <;> rfl

theorem portal?_slot_removeTarget (name' address' : String) :
    ((removeTarget name).slot removal t).portal? name' address' =
      if name' = name then none else t.portal? name' address' := by
  rw [Slot.portal?, portals?_slot_removeTarget]
  split <;> rfl

theorem target?_slot_removePortal (name' : String) :
    ((removePortal name address).slot removal t).target? name' =
      if name' = name then (t.target? name').map (·.dropPortal address) else t.target? name' :=
  target?_slot ..

theorem portals?_slot_removePortal (name' : String) :
    ((removePortal name address).slot removal t).portals? name' =
      if name' = name then (t.portals? name').map (·.erase address) else t.portals? name' := by
  rw [Slot.portals?, target?_slot_removePortal]
  split
  · simp only [Option.bind_map, Slot.portals?, Option.map_bind]
    rfl
  · rfl

theorem portal?_slot_removePortal (name' address' : String) :
    ((removePortal name address).slot removal t).portal? name' address' =
      if name' = name ∧ address' = address then none else t.portal? name' address' := by
  rw [Slot.portal?, portals?_slot_removePortal, Slot.portal?]
  by_cases hname : name' = name
  · cases t.portals? name' <;> simp [hname]
  · simp [hname]

end Edit

namespace Part

variable {t : Slot TargetTable}

/-- What is dropped is the part, and what stands under it. -/
theorem has_slot (x : Part) (removal : Removal) (t : Slot TargetTable) (l : Level) :
    (x.edit.slot removal t).has l = true ↔ t.has l = true ∧ x.level ∉ l.path := by
  cases x with
  | target name =>
    cases l with
    | targets => simp [Slot.has, edit, Edit.isSome_slot, Edit.makes, Level.path, level]
    | target name' | portals name' | portal name' address' =>
      simp only [Slot.has, edit, Edit.target?_slot_removeTarget, Edit.portals?_slot_removeTarget,
        Edit.portal?_slot_removeTarget, Level.path, level]
      by_cases hname : name' = name
      · simp [hname]
      · simp [hname, Ne.symm hname]
  | portal name address =>
    cases l with
    | targets => simp [Slot.has, edit, Edit.isSome_slot, Edit.makes, Level.path, level]
    | target name' | portals name' =>
      simp only [Slot.has, edit, Edit.target?_slot_removePortal, Edit.portals?_slot_removePortal,
        Level.path, level]
      split <;> simp
    | portal name' address' =>
      simp only [Slot.has, edit, Edit.portal?_slot_removePortal, Level.path, level]
      by_cases hpart : name' = name ∧ address' = address
      · simp [hpart]
      · have hother : ¬ (name = name' ∧ address = address') :=
          fun h => hpart ⟨h.1.symm, h.2.symm⟩
        simp [hpart, hother]

/-- The entries of the targets that are left are as they were. -/
theorem bare_slot (x : Part) {removal : Removal} {name : String} {r : TargetRecord}
    (h : (x.edit.slot removal t).target? name = some r) :
    (t.target? name).map TargetRecord.bare = some r.bare := by
  cases x with
  | target name' =>
    rw [edit, Edit.target?_slot_removeTarget] at h
    split at h
    · cases h
    · rw [h, Option.map_some]
  | portal name' address =>
    rw [edit, Edit.target?_slot_removePortal] at h
    split at h
    · obtain ⟨r', hr', rfl⟩ := Option.map_eq_some_iff.1 h
      rw [hr']
      rfl
    · rw [h, Option.map_some]

/-- The portals that are left are as they were. -/
theorem portal?_slot (x : Part) {removal : Removal} {name address : String} {q : PortalRecord}
    (h : (x.edit.slot removal t).portal? name address = some q) :
    t.portal? name address = some q := by
  cases x with
  | target name' =>
    rw [edit, Edit.portal?_slot_removeTarget] at h
    split at h
    · cases h
    · exact h
  | portal name' address' =>
    rw [edit, Edit.portal?_slot_removePortal] at h
    split at h
    · cases h
    · exact h

/-- A removal marks if there was something to remove from, and the part was in it or every removal
marks. -/
theorem modified_slot (x : Part) (removal : Removal) (t : Slot TargetTable) :
    (x.edit.slot removal t).modified =
      (t.modified || t.has x.container && (t.has x.level || removal = .compat)) := by
  rw [Edit.modified_slot]
  cases x with
  | target name => rfl
  | portal name address =>
    show (t.modified || ((t.portals? name).map fun p => removal.marks (p.contains address)).getD
        false) =
      (t.modified || (t.portals? name).isSome &&
        (((t.portals? name).bind (·.get? address)).isSome || removal = .compat))
    cases t.portals? name <;> rfl

theorem slot_of_not_has {x : Part} {removal : Removal} (h : t.has x.container = false) :
    x.edit.slot removal t = t := by
  have hnone : ∀ {α : Type} {a : Option α}, a.isSome = false → a = none :=
    fun h => Option.not_isSome_iff_eq_none.1 (Bool.eq_false_iff.1 h)
  cases x with
  | target name => exact Edit.slot_removeTarget_of_none (hnone h)
  | portal name address => exact Edit.slot_removePortal_of_none (hnone h)

/-! ### Operations -/

/-- What the removal of a part comes to. -/
structure Removed (x : Part) (s : Store) (v : Vault) (m : Medium) (t : Turn) : Prop where
  answer : t.answer = .done
  /-- Of the store only the targets have changed. -/
  store : t.store = s.onTargets fun _ => t.store.cache.targets
  vault : t.vault = v
  medium : t.medium = m
  /-- The part is gone with what stood under it, and all else is still there. -/
  has : ∀ l, t.store.cache.targets.has l = true ↔ s.cache.targets.has l = true ∧ x.level ∉ l.path
  /-- The targets that are left have their entries. -/
  bare : ∀ name r, t.store.target? name = some r →
    (s.target? name).map TargetRecord.bare = some r.bare
  /-- The portals that are left have their records. -/
  portal : ∀ name address q, t.store.portal? name address = some q →
    s.portal? name address = some q
  /-- Where there is nothing to remove from, nothing happens at all. -/
  absent : s.cache.targets.has x.container = false → t.store = s
  /-- Else the targets are marked if the part was there, and in the mode in which every removal
  marks. -/
  modified : t.store.isModified .targets = (s.isModified .targets ||
    s.cache.targets.has x.container && (s.cache.targets.has x.level || s.removal = .compat))

theorem run_op (x : Part) (s : Store) (v : Vault) (m : Medium) :
    ∃ notices, x.op.run s v m = ⟨.done, s.onTargets (x.edit.slot s.removal), v, m, notices⟩ := by
  have hstore := x.edit.store_run s v m
  cases x with
  | target name => exact ⟨_, congrArg (Turn.mk .done · v m _) hstore⟩
  | portal name address => exact ⟨_, congrArg (Turn.mk .done · v m _) hstore⟩

theorem removed_op (x : Part) (s : Store) (v : Vault) (m : Medium) :
    x.Removed s v m (x.op.run s v m) := by
  obtain ⟨notices, hrun⟩ := x.run_op s v m
  rw [hrun]
  exact {
    answer := rfl
    store := rfl
    vault := rfl
    medium := rfl
    has := x.has_slot s.removal s.cache.targets
    bare := fun _ _ => x.bare_slot
    portal := fun _ _ _ => x.portal?_slot
    absent := fun h => congrArg (fun t => s.onTargets fun _ => t) (slot_of_not_has h)
    modified := x.modified_slot s.removal s.cache.targets }

end Part

/-! ### What makes a level -/

namespace Slot

variable {t : Slot TargetTable} {name : String}

/-- A change of the record of a target makes and drops no level, if the record keeps its portals. -/
theorem has_modifyTarget {f : TargetRecord → TargetRecord}
    (hlist : ∀ r, (f r).portals.isSome = r.portals.isSome)
    (hportal : ∀ r address, ((f r).portal? address).isSome = (r.portal? address).isSome)
    (l : Level) : (t.modifyTarget name f).has l = t.has l := by
  cases l with
  | targets => exact Option.isSome_map ..
  | target name' => exact isSome_target?_modifyTarget ..
  | portals name' =>
    simp only [has, portals?, target?_modifyTarget]
    split
    · cases t.target? name' with
      | none => rfl
      | some r => exact hlist r
    · rfl
  | portal name' address =>
    simp only [has, portal?_eq, target?_modifyTarget]
    split
    · cases t.target? name' with
      | none => rfl
      | some r => exact hportal r address
    · rfl

theorem has_modifyPortal {address : String} {f : PortalRecord → PortalRecord} (l : Level) :
    (t.modifyPortal name address f).has l = t.has l := by
  refine has_modifyTarget (fun r => Option.isSome_map ..) (fun r address' => ?_) l
  simp only [TargetRecord.portal?, Option.bind_map, Function.comp_def, Entries.get?_modify]
  cases r.portals with
  | none => rfl
  | some portals =>
    simp only [Option.bind_some]
    split
    · exact Option.isSome_map ..
    · rfl

end Slot

namespace StoreOp

/-- The level that an operation makes, with those that lead to it. -/
def makes? : StoreOp → Option Level
  | .targets true => some .targets
  | .target name true | .setSession name _ | .setTargetAuth name _ => some (.target name)
  | .setTarget t => some (.target t.name)
  | .portals name true => some (.portals name)
  | .portal name address true | .setConnection name address _ => some (.portal name address)
  | .setPortal name p => some (.portal name p.address)
  | _ => none

/-- Whether an operation makes a level. -/
def makes (op : StoreOp) (l : Level) : Bool := op.makes?.any (l ∈ ·.path)

variable {op : StoreOp} {s : Store} {v : Vault} {m : Medium} {l : Level}

/-- Without a synchronization a level is made by an operation that makes it, and by no other. -/
theorem has_run (hop : op ≠ .synchronize) (hmakes : op.makes l = false)
    (h : s.cache.targets.has l = false) : (op.run s v m).store.cache.targets.has l = false := by
  -- a look-up that creates makes its level, and what a setter changes afterwards makes nothing
  have hensure : ∀ l' : Level, decide (l ∈ l'.path) = false →
      (l'.ensure s.cache.targets).has l = false := by
    intro l' hl
    rw [← Bool.not_eq_true, (l'.adds_ensure _).has, not_or, Bool.not_eq_true]
    exact ⟨h, of_decide_eq_false hl⟩
  have hremove : ∀ x : Part, (x.op.run s v m).store.cache.targets.has l = false := by
    intro x
    rw [← Bool.not_eq_true, (x.removed_op s v m).has, h]
    exact fun h => Bool.false_ne_true h.1
  cases op with
  | synchronize => exact absurd rfl hop
  | targets create =>
    cases create with
    | false => exact h
    | true => exact hensure .targets hmakes
  | target name create =>
    cases create with
    | false => exact h
    | true => exact hensure (.target name) hmakes
  | portals name create =>
    cases create with
    | false => exact h
    | true => exact hensure (.portals name) hmakes
  | portal name address create =>
    cases create with
    | false => exact h
    | true => exact hensure (.portal name address) hmakes
  | removeTarget name => exact hremove (.target name)
  | removePortal name address => exact hremove (.portal name address)
  | setSession | setTargetAuth | setTarget =>
    refine (Slot.has_modifyTarget ?_ ?_ l).trans (hensure (.target _) hmakes)
    · exact fun _ => rfl
    · exact fun _ _ => rfl
  | setConnection | setPortal =>
    exact (Slot.has_modifyPortal l).trans (hensure (.portal _ _) hmakes)
  | secret | setSecret =>
    simp only [store_run_secret, store_run_setSecret]
    exact h
  | _ => exact h

end StoreOp

end InitiatorStore
