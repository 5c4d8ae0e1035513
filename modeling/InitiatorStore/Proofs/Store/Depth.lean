import InitiatorStore.Proofs.Cache
import InitiatorStore.Proofs.Record
import InitiatorStore.Proofs.Store.Likeness

/-!
# The depth of what is cached

A document in a file is read only up to `Node.maxDepth` nested mappings, so a store may not come to
hold a value that nests deeper than what is under a key of such a document.  It does not: what is
read is no deeper than the document, what is carried along is as deep as it was, and what operations
put in is shallow (`Cache.Bounded.run`).
-/

namespace InitiatorStore

variable {k : Nat}

/-! ### Shallow values -/

namespace Node

theorem depth_insert_le {key : String} {n : Node} {m : Document} (hn : n.depth ≤ k)
    (hm : (mapping m).depth ≤ k + 1) : (mapping (m.insert key n)).depth ≤ k + 1 :=
  Nat.succ_le_succ (entriesDepth_insert_le hn (Nat.le_of_succ_le_succ hm))

theorem depth_of_eq_insert {key : String} {n : Node} {m m' : Document} (h : m' = m.insert key n)
    (hn : n.depth ≤ k) (hm : (mapping m).depth ≤ k + 1) : (mapping m').depth ≤ k + 1 :=
  h ▸ depth_insert_le hn hm

theorem depth_ofList_le {l : List (String × Node)} (h : ∀ e ∈ l, e.2.depth ≤ k) :
    (ofList l).depth ≤ k + 1 := by
  have hfold : ∀ (l : List (String × Node)) (m : Document), (∀ e ∈ l, e.2.depth ≤ k) →
      (mapping m).depth ≤ k + 1 →
      (mapping (l.foldl (fun m e => m.insert e.1 e.2) m)).depth ≤ k + 1 := by
    intro l
    induction l with
    | nil => exact fun m _ hm => hm
    | cons e l ih =>
      intro m hl hm
      exact ih _ (fun e' he' => hl e' (List.mem_cons_of_mem _ he'))
        (depth_insert_le (hl e (List.mem_cons_self ..)) hm)
  exact hfold l ∅ h (Nat.le_add_left 1 k)

end Node

theorem depth_target (t : Target) : (toNode t).depth ≤ 1 := by
  obtain ⟨name, alias?⟩ := t
  have hname : (Node.mapping (Entries.empty.insert Target.nameKey (.scalar name))).depth ≤ 1 :=
    Node.depth_insert_le (Nat.le_refl 0) (Nat.le_refl 1)
  cases alias? with
  | none => exact hname
  | some s => exact Node.depth_insert_le (Nat.le_refl 0) hname

theorem depth_session (c : Session) : (toNode c).depth ≤ 1 :=
  Node.depth_ofList_le (by simp)

theorem depth_portal (p : Portal) : (toNode p).depth ≤ 1 :=
  Node.depth_ofList_le (by simp)

theorem depth_connection (c : Connection) : (toNode c).depth ≤ 1 :=
  Node.depth_ofList_le (by simp)

/-- A collection nests one level deeper than its values. -/
theorem depth_keyed_le {α : Type} [NodeCodec α] {t : Keyed α} :
    (toNode t).depth ≤ k + 1 ↔ ∀ key a, t.get? key = some a → (toNode a).depth ≤ k := by
  refine Node.depth_mapping_le.trans ⟨fun h key a ha => ?_, fun h key n hn => ?_⟩
  · exact h key (toNode a) (by rw [Entries.get?_mapVals, ha]; rfl)
  · rw [Entries.get?_mapVals] at hn
    obtain ⟨a, ha, rfl⟩ := Option.map_eq_some_iff.1 hn
    exact h key a ha

/-- What is kept about a discovered target: its portal groups, and their portals. -/
theorem depth_discovered {r : DiscoveryRecord} {target : String} {n : Node}
    (h : r.entries.get? target = some n) : n.depth ≤ 3 := by
  have hentries : r.entries = r.targets.mapVals toNode := rfl
  rw [hentries, Entries.get?_mapVals] at h
  obtain ⟨groups, -, rfl⟩ := Option.map_eq_some_iff.1 h
  exact depth_keyed_le.2 fun _ group _ => depth_keyed_le.2 fun _ p _ => depth_portal p

/-! ### Records up to a depth -/

/-- Records are alike when they are one record, which nests so deep that a portal takes at most `k`
levels, and a whole namespace at most `k + 3`. -/
def Likeness.bounded (k : Nat) : Likeness where
  target r s := r = s ∧ (toNode r).depth ≤ k + 2
  portal r s := r = s ∧ (toNode r).depth ≤ k
  initiator r s := r = s ∧ (toNode r).depth ≤ k + 3
  discovery d e := d = e ∧ (toNode d).depth ≤ k + 3

theorem alike_bounded_iff {α : Type} [NodeCodec α] {m n : Keyed α} :
    Entries.Alike (fun r s : α => r = s ∧ (toNode r).depth ≤ k) m n ↔
      m = n ∧ (toNode m).depth ≤ k + 1 := by
  constructor
  · intro h
    have hkey : ∀ key, m.get? key = n.get? key ∧
        ∀ a, m.get? key = some a → (toNode a).depth ≤ k := by
      intro key
      have h := h key
      generalize m.get? key = a at h ⊢
      generalize n.get? key = b at h ⊢
      cases h with
      | none => exact ⟨rfl, nofun⟩
      | some h => exact ⟨congrArg some h.1, fun _ ha => Option.some.inj ha ▸ h.2⟩
    exact ⟨Entries.ext_get? fun key => (hkey key).1, depth_keyed_le.2 fun key => (hkey key).2⟩
  · rintro ⟨rfl, h⟩ key
    cases hkey : m.get? key with
    | none => exact .none
    | some a => exact .some ⟨rfl, depth_keyed_le.1 h key a hkey⟩

theorem TargetRecord.depth_portals {r : TargetRecord} {t : PortalTable}
    (h : (toNode r).depth ≤ k + 1) (ht : r.portals = some t) : (toNode t).depth ≤ k := by
  refine Node.depth_mapping_le.1 h portalsKey (toNode t) ((get?_entries r portalsKey).trans ?_)
  rw [ht]
  rfl

theorem Likeness.kept_bounded (k : Nat) : (bounded (k + 2)).Kept where
  target_fresh := ⟨rfl, Nat.le_add_left 1 (k + 3)⟩
  target_data := by
    rintro r _ t ⟨rfl, hr⟩
    have hdepth := depth_target t
    exact ⟨rfl, Node.depth_of_eq_insert (r.entries_target (toNode t)) (by omega) hr⟩
  target_session := by
    rintro r _ c ⟨rfl, hr⟩
    have hdepth := depth_session c
    exact ⟨rfl, Node.depth_of_eq_insert (r.entries_session (toNode c)) (by omega) hr⟩
  target_auth := by
    rintro r _ tag ⟨rfl, hr⟩
    exact ⟨rfl, Node.depth_of_eq_insert (r.entries_authentication tag) (Nat.zero_le _) hr⟩
  portals := by
    rintro r _ ⟨rfl, hr⟩
    cases ht : r.portals with
    | none => exact .none
    | some t => exact .some (alike_bounded_iff.2 ⟨rfl, r.depth_portals hr ht⟩)
  target_portals := by
    rintro r _ p q ⟨rfl, hr⟩ hpq
    obtain ⟨rfl, hp⟩ := alike_bounded_iff.1 hpq
    exact ⟨rfl, Node.depth_of_eq_insert (r.entries_portals p) hp hr⟩
  portal_fresh := ⟨rfl, Nat.le_add_left 1 (k + 1)⟩
  portal_data := by
    rintro r _ p ⟨rfl, hr⟩
    have hdepth := depth_portal p
    exact ⟨rfl, Node.depth_of_eq_insert (r.entries_portal (toNode p)) (by omega) hr⟩
  portal_connection := by
    rintro r _ c ⟨rfl, hr⟩
    have hdepth := depth_connection c
    exact ⟨rfl, Node.depth_of_eq_insert (r.entries_connection (toNode c)) (by omega) hr⟩
  initiator_fresh := ⟨rfl, Nat.le_add_left 1 (k + 4)⟩
  initiator_name := by
    rintro r _ name ⟨rfl, hr⟩
    exact ⟨rfl, Node.depth_of_eq_insert (r.entries_name name) (Nat.zero_le _) hr⟩
  initiator_alias := by
    rintro r _ aliasName ⟨rfl, hr⟩
    exact ⟨rfl, Node.depth_of_eq_insert (r.entries_alias aliasName) (Nat.zero_le _) hr⟩
  initiator_auth := by
    rintro r _ tag ⟨rfl, hr⟩
    exact ⟨rfl, Node.depth_of_eq_insert (r.entries_authentication tag) (Nat.zero_le _) hr⟩
  discovery_fresh := ⟨rfl, Nat.le_add_left 1 (k + 4)⟩
  discovery_merge := by
    rintro d _ r ⟨rfl, hd⟩
    refine ⟨rfl, depth_keyed_le.2 fun target n hn => ?_⟩
    rw [Entries.get?_merge] at hn
    cases hr : r.entries.get? target with
    | none =>
      rw [hr] at hn
      exact depth_keyed_le.1 hd target n hn
    | some n' =>
      rw [hr] at hn
      obtain rfl := Option.some.inj hn
      have hdepth : (toNode n').depth ≤ 3 := depth_discovered hr
      omega

/-! ### Caches up to a depth -/

namespace Cache

variable {c : Cache}

/-- No cached value nests deeper than a bound. -/
def Bounded (k : Nat) (c : Cache) : Prop := ∀ ns n, c.node? ns = some n → n.depth ≤ k

theorem bounded_empty (k : Nat) : Bounded k {} := by
  intro ns n h
  cases ns <;> cases h

/-- Slots with the same value, which is no deeper than the bound. -/
theorem alike_bounded_slot {α : Type} [NodeCodec α] {R : α → α → Prop} {s : Slot α}
    (hR : ∀ a, R a a ↔ (toNode a).depth ≤ k) :
    Slot.Alike R s s ↔ ∀ n, s.value.map toNode = some n → n.depth ≤ k := by
  constructor
  · intro h n hn
    have hvalue := h.value
    cases hs : s.value with
    | none =>
      rw [hs] at hn
      cases hn
    | some a =>
      rw [hs] at hn hvalue
      cases hvalue with
      | some ha => exact Option.some.inj hn ▸ (hR a).1 ha
  · intro h
    refine ⟨?_, rfl⟩
    cases hs : s.value with
    | none => exact .none
    | some a => exact .some ((hR a).2 (h _ (congrArg (Option.map toNode) hs)))

theorem alike_bounded : Alike (Likeness.bounded k) c c ↔ Bounded (k + 3) c := by
  have htargets := alike_bounded_slot (k := k + 3) (s := c.targets)
    (R := Entries.Alike (Likeness.bounded k).target)
    fun t => alike_bounded_iff.trans (and_iff_right rfl)
  have hinitiator := alike_bounded_slot (s := c.initiator)
    (R := (Likeness.bounded k).initiator) fun r => and_iff_right rfl
  have hdiscovery := alike_bounded_slot (s := c.discovery)
    (R := (Likeness.bounded k).discovery) fun d => and_iff_right rfl
  constructor
  · rintro ⟨ht, hi, hd⟩ ns
    cases ns with
    | targets => exact htargets.1 ht
    | initiator => exact hinitiator.1 hi
    | discovery => exact hdiscovery.1 hd
  · intro h
    exact ⟨htargets.2 (h .targets), hinitiator.2 (h .initiator), hdiscovery.2 (h .discovery)⟩

/-- A value that is loaded nests no deeper than the node that it is read from. -/
theorem Bounded.load (h : Bounded k c) {ns : Namespace} {v : Option Node}
    (hv : ∀ n, v = some n → n.depth ≤ k) : Bounded k (c.load ns v) := by
  have hread : ∀ {α : Type} [NodeCodec α], Shallow α → ∀ n,
      (v.bind (ofNode? (α := α))).map toNode = some n → n.depth ≤ k := by
    intro α _ hα n hn
    obtain ⟨a, ha, rfl⟩ := Option.map_eq_some_iff.1 hn
    obtain ⟨n', hn', ha⟩ := Option.bind_eq_some_iff.1 ha
    exact Nat.le_trans (hα n' a ha) (hv n' hn')
  intro ns' n hn
  -- the namespace that is loaded is as shallow as what it is read from, the others stay
  by_cases hns : ns' = ns
  · subst hns
    cases ns' with
    | targets => exact hread (shallow_keyed shallow_targetRecord) n hn
    | initiator => exact hread shallow_initiatorRecord n hn
    | discovery => exact hread (shallow_keyed shallow_node) n hn
  · rw [(agree_load_of_ne hns c v).node?_eq] at hn
    exact h ns' n hn

end Cache

/-- Operations keep what is cached within a bound. -/
theorem Store.bounded_run {s : Store} {op : StoreOp} (hk : 5 ≤ k) (h : s.cache.Bounded k)
    (hop : op ≠ .synchronize) (v : Vault) (m : Medium) :
    (op.run s v m).store.cache.Bounded k := by
  obtain ⟨k, rfl⟩ := Nat.exists_eq_add_of_le' hk
  -- a store within the bound is like itself, and operations keep likeness
  have halike : Store.Alike (Likeness.bounded (k + 2)) s s :=
    ⟨Cache.alike_bounded.2 h, rfl⟩
  have hrun := halike.run (Likeness.kept_bounded k) hop v v m m
  exact Cache.alike_bounded.1 hrun.cache

end InitiatorStore
