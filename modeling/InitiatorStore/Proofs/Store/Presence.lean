import InitiatorStore.Proofs.Store.Levels
import InitiatorStore.Proofs.Store.Marks
import InitiatorStore.Proofs.Store.Synchronize

/-!
# Marked namespaces have values

What is written for a marked namespace without a value is the removal of its key.  For the targets
and for the initiator this never comes up: an operation that marks them leaves a value there
(`Cache.Backed`, `StoreOp.backed_run`).  What was discovered may be cleared, and then its namespace
is marked and has no value.  Mark and value together tell which change of it came last
(`Store.TellsDiscovery`).
-/

namespace InitiatorStore

/-! ### Slots -/

namespace Slot

section

variable {α : Type}

theorem isSome_ensure (s : Slot α) (fresh : α) : (s.ensure fresh).value.isSome = true := rfl

@[simp] theorem isSome_modify (f : α → α) (s : Slot α) :
    (s.modify f).value.isSome = s.value.isSome :=
  Option.isSome_map ..

end

variable (s : Slot TargetTable) (name address : String)

theorem isSome_ensureTarget : (s.ensureTarget name).value.isSome = true :=
  congrArg Option.isSome (s.value_ensureTarget name)

theorem isSome_ensurePortals : (s.ensurePortals name).value.isSome = true :=
  congrArg Option.isSome (s.value_ensurePortals name)

theorem isSome_ensurePortal : (s.ensurePortal name address).value.isSome = true :=
  congrArg Option.isSome (s.value_ensurePortal name address)

end Slot

/-! ### Caches -/

namespace Cache

/-- The targets and the initiator have a value if they are marked. -/
structure Backed (c : Cache) : Prop where
  targets : c.targets.modified = true → c.targets.value.isSome = true
  initiator : c.initiator.modified = true → c.initiator.value.isSome = true

variable {c : Cache} {ns : Namespace}

theorem backed_empty : Backed {} := ⟨nofun, nofun⟩

theorem Backed.isPresent (h : c.Backed) (hns : ns ≠ .discovery) (hmarked : c.isModified ns = true) :
    c.isPresent ns = true := by
  cases ns with
  | targets => exact h.targets hmarked
  | initiator => exact h.initiator hmarked
  | discovery => exact absurd rfl hns

/-- Where nothing is marked there is nothing to back. -/
theorem backed_of_isModified (h : ∀ ns, c.isModified ns = false) : c.Backed where
  targets hmarked := absurd ((h .targets).symm.trans hmarked) Bool.false_ne_true
  initiator hmarked := absurd ((h .initiator).symm.trans hmarked) Bool.false_ne_true

theorem isSome_node? (c : Cache) (ns : Namespace) : (c.node? ns).isSome = c.isPresent ns := by
  cases ns <;> exact Option.isSome_map ..

end Cache

/-! ### Operations -/

/-- A change of what was discovered. -/
inductive DiscoveryChange
  | added
  | cleared
  deriving DecidableEq

namespace Store

variable {s : Store}

theorem backed_removeTarget (h : s.cache.Backed) (name : String) :
    (s.removeTarget name).cache.Backed := by
  unfold removeTarget
  split
  · exact h
  · next t ht =>
    have hvalue : s.cache.targets.value = some t := ht
    refine ⟨fun _ => (Slot.isSome_modify _ s.cache.targets).trans ?_, h.initiator⟩
    rw [hvalue]
    rfl

theorem backed_removePortal (h : s.cache.Backed) (name address : String) :
    (s.removePortal name address).cache.Backed := by
  unfold removePortal
  split
  · exact h
  · next t ht =>
    -- a portal list is found in a table
    obtain ⟨r, hr, -⟩ := Option.bind_eq_some_iff.1
      (show (s.cache.targets.target? name).bind (·.portals) = some t from ht)
    obtain ⟨table, hvalue, -⟩ := Option.bind_eq_some_iff.1
      (show s.cache.targets.value.bind (·.get? name) = some r from hr)
    refine ⟨fun _ => (Slot.isSome_modify _ s.cache.targets).trans ?_, h.initiator⟩
    rw [hvalue]
    rfl

/-- Whether what was discovered is marked, and whether it is there, given the last change of it that
has not been written. -/
def TellsDiscovery (s : Store) : Option DiscoveryChange → Prop
  | none => s.isModified .discovery = false
  | some .added => s.isModified .discovery = true ∧ s.isLoaded .discovery = true
  | some .cleared => s.isModified .discovery = true ∧ s.isLoaded .discovery = false

variable {last : Option DiscoveryChange}

theorem TellsDiscovery.isLoaded_eq_false_iff (h : s.TellsDiscovery last)
    (hmarked : s.isModified .discovery = true) :
    s.isLoaded .discovery = false ↔ last = some .cleared := by
  rcases last with _ | _ | _
  · exact absurd (h.symm.trans hmarked) Bool.false_ne_true
  · simp [h.2]
  · simp [h.2]

theorem TellsDiscovery.congr {t : Store} (h : s.TellsDiscovery last)
    (hvalue : Cache.Agree .discovery t.cache s.cache)
    (hmark : t.isModified .discovery = s.isModified .discovery) : t.TellsDiscovery last := by
  have hloaded : t.isLoaded .discovery = s.isLoaded .discovery := hvalue.isPresent_eq
  rcases last with _ | _ | _
  · exact hmark.trans h
  · exact ⟨hmark.trans h.1, hloaded.trans h.2⟩
  · exact ⟨hmark.trans h.1, hloaded.trans h.2⟩

theorem TellsDiscovery.of_cache_eq {t : Store} (h : s.TellsDiscovery last)
    (hcache : t.cache = s.cache) : t.TellsDiscovery last :=
  h.congr (hcache ▸ .refl _ _) (congrArg (Cache.isModified · .discovery) hcache)

/-! Synchronizing takes the marks off, or leaves the caches as they are. -/

variable {m : Medium} {y : Sync}

theorem Synchronizes.backed (h : Synchronizes s m y) (hs : s.cache.Backed) :
    y.store.cache.Backed := by
  cases hresult : y.result with
  | error e => exact (h.cache_of_error hresult).symm ▸ hs
  | ok => exact Cache.backed_of_isModified (h.isModified_of_ok hresult)

end Store

namespace StoreOp

/-- What an operation changes of what was discovered, if it does. -/
def discoveryChange? : StoreOp → Option DiscoveryChange
  | .addDiscovery _ => some .added
  | .clearDiscovery => some .cleared
  | _ => none

variable {op : StoreOp} {s : Store} {v : Vault} {m : Medium}

theorem backed_run (op : StoreOp) (h : s.cache.Backed) : (op.run s v m).store.cache.Backed := by
  cases op with
  | synchronize =>
    rw [run_synchronize]
    exact (s.synchronizes m).backed h
  | targets create =>
    cases create with
    | false => exact h
    | true => exact ⟨fun _ => Slot.isSome_ensure .., h.initiator⟩
  | target name create =>
    cases create with
    | false => exact h
    | true => exact ⟨fun _ => Slot.isSome_ensureTarget .., h.initiator⟩
  | portals name create =>
    cases create with
    | false => exact h
    | true => exact ⟨fun _ => Slot.isSome_ensurePortals .., h.initiator⟩
  | portal name address create =>
    cases create with
    | false => exact h
    | true => exact ⟨fun _ => Slot.isSome_ensurePortal .., h.initiator⟩
  | initiator create =>
    cases create with
    | false => exact h
    | true => exact ⟨h.targets, fun _ => Slot.isSome_ensure ..⟩
  | removeTarget name => exact Store.backed_removeTarget h name
  | removePortal name address => exact Store.backed_removePortal h name address
  -- a setter makes what leads to its place before it marks
  | setSession | setTarget | setTargetAuth =>
    exact ⟨fun _ => (Slot.isSome_modify ..).trans (Slot.isSome_ensureTarget ..), h.initiator⟩
  | setConnection | setPortal =>
    exact ⟨fun _ => (Slot.isSome_modify ..).trans (Slot.isSome_ensurePortal ..), h.initiator⟩
  | setInitiatorName | setInitiatorAlias | setInitiatorAuth =>
    exact ⟨h.targets, fun _ => rfl⟩
  | secret | setSecret =>
    simp only [store_run_secret, store_run_setSecret]
    exact h
  | _ => exact ⟨h.targets, h.initiator⟩

theorem tellsDiscovery_run (hop : op ≠ .synchronize) {last : Option DiscoveryChange}
    (h : s.TellsDiscovery last) :
    (op.run s v m).store.TellsDiscovery (op.discoveryChange?.or last) := by
  by_cases hsubject : op.subject? = some .discovery
  · cases op with
    | addDiscovery r => exact ⟨rfl, rfl⟩
    | clearDiscovery => exact ⟨rfl, rfl⟩
    | _ => cases hsubject
  · have hchange : op.discoveryChange? = none := by
      cases op with
      | addDiscovery | clearDiscovery => exact absurd rfl hsubject
      | _ => rfl
    obtain ⟨hvalue, hmark⟩ := (follows_run hop (s := s) (v := v) (m := m)).agree_of_ne hsubject
    rw [hchange]
    exact h.congr hvalue hmark

end StoreOp

end InitiatorStore
