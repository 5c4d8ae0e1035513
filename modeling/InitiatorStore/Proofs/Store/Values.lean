import InitiatorStore.Proofs.Store.Lookups
import InitiatorStore.Proofs.Store.Sound

/-!
# Levels of a value of the targets

In a value of the targets the levels are told by the keys that lead to them (`Level.node?`).  A value
that is written has the levels that are cached (`Level.isSome_node?`), and what a value lacks is
missing when it is read (`Level.has_load`).  So a level that is missing from a store and from the
document stays missing when the store is synchronized (`Store.Synchronizes.has_eq_false`).
-/

namespace InitiatorStore

namespace Level

/-- What stands at a level of a value of the targets. -/
def node? (value : Option Node) : Level → Option Node
  | .targets => value
  | .target name => value.bind (·.get? name)
  | .portals name => (value.bind (·.get? name)).bind (·.get? TargetRecord.portalsKey)
  | .portal name address =>
    ((value.bind (·.get? name)).bind (·.get? TargetRecord.portalsKey)).bind (·.get? address)

variable {c : Cache}

/-- The value that is written has the levels that are cached. -/
theorem isSome_node? (h : Cache.Alike Likeness.encoded c c) (l : Level) :
    (l.node? (c.node? .targets)).isSome = c.targets.has l := by
  have hportals : ∀ name, ((c.node? .targets).bind (·.get? name)).bind
      (·.get? TargetRecord.portalsKey) = (c.targets.portals? name).map toNode := by
    intro name
    rw [c.get?_node?, Slot.portals?]
    cases hr : c.targets.target? name with
    | none => rfl
    | some r =>
      -- the key of the portals is not among the entries that are not understood
      have hrel := h.targets.target? name
      rw [hr] at hrel
      obtain ⟨htidy, -⟩ := Option.rel_some_some.1 hrel
      exact htidy.get?_entries_portals
  cases l with
  | targets => exact Option.isSome_map ..
  | target name => exact (congrArg Option.isSome (c.get?_node? name)).trans (Option.isSome_map ..)
  | portals name => exact (congrArg Option.isSome (hportals name)).trans (Option.isSome_map ..)
  | portal name address =>
    simp only [node?, hportals, Slot.has, Slot.portal?]
    cases c.targets.portals? name with
    | none => rfl
    | some portals =>
      exact (congrArg Option.isSome (get?_toNode portals address)).trans (Option.isSome_map ..)

/-- What is read has no level that the value lacks. -/
theorem has_load {value : Option Node} {l : Level} (h : l.node? value = none) (c : Cache) :
    (c.load .targets value).targets.has l = false := by
  have hportals : ∀ name, (c.load .targets value).targets.portals? name =
      ((value.bind (·.get? name)).bind (·.get? TargetRecord.portalsKey)).bind ofNode? := by
    intro name
    rw [Slot.portals?, Cache.target?_load]
    rcases value.bind (·.get? name) with _ | text | entries <;> rfl
  cases l with
  | targets =>
    obtain rfl : value = none := h
    rfl
  | target name =>
    have h : value.bind (·.get? name) = none := h
    rw [Slot.has, Cache.target?_load, h]
    rfl
  | portals name =>
    have h : (value.bind (·.get? name)).bind (·.get? TargetRecord.portalsKey) = none := h
    rw [Slot.has, hportals, h]
    rfl
  | portal name address =>
    have h : ((value.bind (·.get? name)).bind (·.get? TargetRecord.portalsKey)).bind
      (·.get? address) = none := h
    rw [Slot.has, Slot.portal?, hportals, get?_ofNode?, h]
    rfl

end Level

/-! ### Synchronizing -/

theorem Cache.Agree.has_eq {c c' : Cache} (h : Agree .targets c c') (l : Level) :
    c.targets.has l = c'.targets.has l := by
  have htarget := h.target?_eq
  cases l with
  | targets => exact congrArg Option.isSome (show c.targets.value = c'.targets.value from h)
  | target name => exact congrArg Option.isSome (htarget name)
  | portals name => exact congrArg (fun r => (r.bind (·.portals)).isSome) (htarget name)
  | portal name address =>
    exact congrArg (fun r => ((r.bind (·.portals)).bind (·.get? address)).isSome) (htarget name)

namespace Store

variable {s : Store} {m : Medium} {y : Sync} {l : Level}

/-- A level that a store lacks is missing after a synchronization too, whatever it comes to, if the
targets are marked or the document lacks it afterwards. -/
theorem Synchronizes.has_eq_false (h : Synchronizes s m y) (hcached : s.cache.targets.has l = false)
    (hheld : s.isModified .targets = true ∨
      ∀ d, y.medium.read = .ok d → l.node? (d.get? Namespace.targets.key) = none) :
    y.store.cache.targets.has l = false := by
  have hkeep : Cache.Agree .targets y.store.cache s.cache →
      y.store.cache.targets.has l = false :=
    fun hagree => (hagree.has_eq l).trans hcached
  rcases hheld with hmarked | hheld
  · cases hresult : y.result with
    | error e => exact hkeep (h.cache_of_error hresult ▸ .refl ..)
    | ok => exact hkeep (h.agree_of_ok hresult hmarked)
  · rcases h.agree_cases .targets with hkept | ⟨d, hread, hload⟩
    · exact hkeep hkept
    · rw [hload.has_eq]
      exact Level.has_load (hheld d hread) _

end Store

end InitiatorStore
