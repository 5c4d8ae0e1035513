import InitiatorStore.Cache

/-!
# The value of one namespace

What loading, settling and marking do to a cache is told namespace by namespace: two caches agree on
a namespace when they hold the same value of it (`Cache.Agree`), and a namespace that is loaded
leaves the others as they are.
-/

namespace InitiatorStore

theorem Namespace.key_injective {ns ns' : Namespace} (h : ns.key = ns'.key) : ns = ns' := by
  revert h
  cases ns <;> cases ns' <;> decide

theorem Namespace.mem_all (ns : Namespace) : ns ∈ Namespace.all := by
  cases ns <;> decide

namespace Cache

variable {ns ns' : Namespace} {c c' c'' : Cache}

/-- Two caches hold the same value of a namespace, or both hold none. -/
def Agree (ns : Namespace) (c c' : Cache) : Prop :=
  match ns with
  | .targets => c.targets.value = c'.targets.value
  | .initiator => c.initiator.value = c'.initiator.value
  | .discovery => c.discovery.value = c'.discovery.value

theorem Agree.refl (ns : Namespace) (c : Cache) : Agree ns c c := by
  cases ns <;> rfl

theorem Agree.trans (h : Agree ns c c') (h' : Agree ns c' c'') : Agree ns c c'' := by
  cases ns <;> exact Eq.trans h h'

theorem Agree.node?_eq (h : Agree ns c c') : c.node? ns = c'.node? ns := by
  cases ns with
  | targets => exact congrArg (Option.map toNode) (h : c.targets.value = c'.targets.value)
  | initiator => exact congrArg (Option.map toNode) (h : c.initiator.value = c'.initiator.value)
  | discovery => exact congrArg (Option.map toNode) (h : c.discovery.value = c'.discovery.value)

theorem Agree.isPresent_eq (h : Agree ns c c') : c.isPresent ns = c'.isPresent ns := by
  cases ns with
  | targets => exact congrArg Option.isSome (show c.targets.value = c'.targets.value from h)
  | initiator => exact congrArg Option.isSome (show c.initiator.value = c'.initiator.value from h)
  | discovery => exact congrArg Option.isSome (show c.discovery.value = c'.discovery.value from h)

/-- Caches that agree on every namespace and have the same marks are the same. -/
theorem eq_of_agree (h : ∀ ns, Agree ns c c') (hmarks : ∀ ns, c.isModified ns = c'.isModified ns) :
    c = c' := by
  obtain ⟨⟨targets, marked⟩, ⟨initiator, marked₁⟩, ⟨discovery, marked₂⟩⟩ := c
  obtain ⟨⟨targets', marked'⟩, ⟨initiator', marked₁'⟩, ⟨discovery', marked₂'⟩⟩ := c'
  obtain rfl : targets = targets' := h .targets
  obtain rfl : initiator = initiator' := h .initiator
  obtain rfl : discovery = discovery' := h .discovery
  obtain rfl : marked = marked' := hmarks .targets
  obtain rfl : marked₁ = marked₁' := hmarks .initiator
  obtain rfl : marked₂ = marked₂' := hmarks .discovery
  rfl

theorem agree_settle (ns : Namespace) (c : Cache) : Agree ns c.settle c := by
  cases ns <;> rfl

theorem agree_load (ns : Namespace) (c c' : Cache) (n : Option Node) :
    Agree ns (c.load ns n) (c'.load ns n) := by
  cases ns <;> rfl

theorem agree_load_of_ne (h : ns ≠ ns') (c : Cache) (n : Option Node) :
    Agree ns (c.load ns' n) c := by
  cases ns <;> cases ns' <;> first | rfl | exact absurd rfl h

@[simp] theorem isModified_load (ns ns' : Namespace) (c : Cache) (n : Option Node) :
    (c.load ns' n).isModified ns = c.isModified ns := by
  cases ns <;> cases ns' <;> rfl

@[simp] theorem isModified_settle (ns : Namespace) (c : Cache) :
    c.settle.isModified ns = false := by
  cases ns <;> rfl

theorem mem_modified : ns ∈ c.modified ↔ c.isModified ns = true := by
  rw [modified, List.mem_filter, and_iff_right (Namespace.mem_all ns)]

end Cache

end InitiatorStore
