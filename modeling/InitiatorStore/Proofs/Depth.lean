import InitiatorStore.Keyed.Lemmas
import InitiatorStore.Node

/-!
# The depth of nodes

How deep mappings nest in a node is told by look-ups (`Node.entriesDepth_le`), so a bound on the
depth of a mapping is a bound on the depth of each of its children (`Node.depth_mapping_le`), and it
passes from maps to the maps that are made of them.
-/

namespace InitiatorStore

namespace Node

variable {lo : Option String} {k : Nat}

/-- Some entries nest at most `k` deep when each of their nodes does. -/
theorem entriesDepth_le {m : Entries Node lo} :
    entriesDepth m ≤ k ↔ ∀ key n, m.get? key = some n → n.depth ≤ k := by
  induction m with
  | nil => simp [entriesDepth]
  | cons key' above v rest ih =>
    rw [entriesDepth, Nat.max_le, ih]
    constructor
    · rintro ⟨hv, hrest⟩ key n hn
      rw [Entries.get?] at hn
      split at hn
      · exact Option.some.inj hn ▸ hv
      · exact hrest key n hn
    · intro h
      refine ⟨h key' v (by simp [Entries.get?]), fun key n hn => h key n ?_⟩
      have hne : key ≠ key' := by
        rintro rfl
        rw [Entries.get?_self] at hn
        cases hn
      rw [Entries.get?, if_neg hne, hn]

/-- A mapping nests at most `k + 1` deep when its children nest at most `k` deep. -/
theorem depth_mapping_le {m : Document} :
    (Node.mapping m).depth ≤ k + 1 ↔ ∀ key n, m.get? key = some n → n.depth ≤ k := by
  rw [depth, Nat.add_le_add_iff_right, entriesDepth_le]

@[simp] theorem depth_scalar (s : String) : (Node.scalar s).depth = 0 := rfl

@[simp] theorem depth_blank : Node.blank.depth = 0 := rfl

/-- A node that is put under a key of entries that nest at most `k` deep. -/
theorem entriesDepth_insert_le {key : String} {n : Node} {m : Document} (hn : n.depth ≤ k)
    (hm : entriesDepth m ≤ k) : entriesDepth (m.insert key n) ≤ k := by
  rw [entriesDepth_le] at hm ⊢
  intro key' n' h
  rw [Entries.get?_insert] at h
  split at h
  · exact Option.some.inj h ▸ hn
  · exact hm key' n' h

end Node

end InitiatorStore
