import InitiatorStore.Proofs.Cache
import InitiatorStore.Proofs.Record
import InitiatorStore.Proofs.Store.Likeness

/-!
# Caches with the same encoding

Two records that are written alike need not be equal: a fresh portal has no authentication tag and
is written with a blank one, and an entry `Authentication` that is no tag stays aside when a tag is
set.  No operation tells such records apart.  Stores whose caches have the same encodings stay so
(`Likeness.kept_encoded` with `Store.Alike.run`) and answer alike (`Store.Alike.answer`); only an
answer that is a record itself may be another record with the same encoding (`StoreAnswer.Alike`).
-/

namespace InitiatorStore

/-! ### The same encoding -/

section Encoding

variable {α : Type} [NodeCodec α]

theorem rel_toNode_iff {a b : Option α} :
    Option.Rel (fun a b => toNode a = toNode b) a b ↔ a.map toNode = b.map toNode := by
  constructor
  · rintro (h | -)
    · exact congrArg some h
    · rfl
  · intro h
    cases a with
    | none =>
      cases b with
      | none => exact .none
      | some b => cases h
    | some a =>
      cases b with
      | none => cases h
      | some b => exact .some (Option.some.inj h)

theorem alike_toNode_iff {m n : Keyed α} :
    Entries.Alike (fun a b => toNode a = toNode b) m n ↔ toNode m = toNode n := by
  have hmap : ∀ k, Option.Rel (fun a b => toNode a = toNode b) (m.get? k) (n.get? k) ↔
      (m.mapVals toNode).get? k = (n.mapVals toNode).get? k := by
    intro k
    rw [Entries.get?_mapVals, Entries.get?_mapVals]
    exact rel_toNode_iff
  constructor
  · intro h
    exact congrArg Node.mapping (Entries.ext_get? fun k => (hmap k).1 (h k))
  · intro h k
    exact (hmap k).2 (congrArg (Entries.get? k) (Node.mapping.inj h))

end Encoding

/-- Records are alike when they have the same encoding and keep nothing aside that is understood. -/
def Likeness.encoded : Likeness where
  target r s := r.Tidy ∧ s.Tidy ∧ r.entries = s.entries
  portal r s := toNode r = toNode s
  initiator r s := r.Tidy ∧ s.Tidy ∧ r.entries = s.entries
  discovery d e := d = e

theorem Likeness.kept_encoded : encoded.Kept where
  target_fresh := ⟨TargetRecord.tidy_fresh, TargetRecord.tidy_fresh, rfl⟩
  target_data := by
    rintro r s t ⟨hr, hs, h⟩
    exact ⟨hr, hs, by rw [r.entries_target, s.entries_target, h]⟩
  target_session := by
    rintro r s c ⟨hr, hs, h⟩
    exact ⟨hr, hs, by rw [r.entries_session, s.entries_session, h]⟩
  target_auth := by
    rintro r s tag ⟨hr, hs, h⟩
    exact ⟨hr, hs, by rw [r.entries_authentication, s.entries_authentication, h]⟩
  portals := by
    rintro r s ⟨hr, hs, h⟩
    have hportals : r.portals.map toNode = s.portals.map toNode := by
      rw [← hr.get?_entries_portals, ← hs.get?_entries_portals, h]
    generalize r.portals = p at hportals ⊢
    generalize s.portals = q at hportals ⊢
    cases rel_toNode_iff.2 hportals with
    | none => exact .none
    | some h => exact .some (alike_toNode_iff.2 h)
  target_portals := by
    rintro r s p q ⟨hr, hs, h⟩ hpq
    exact ⟨hr, hs, by rw [r.entries_portals, s.entries_portals, h, alike_toNode_iff.1 hpq]⟩
  portal_fresh := rfl
  portal_data := by
    intro r s p h
    refine congrArg Node.mapping ?_
    rw [r.entries_portal, s.entries_portal, Node.mapping.inj h]
  portal_connection := by
    intro r s c h
    refine congrArg Node.mapping ?_
    rw [r.entries_connection, s.entries_connection, Node.mapping.inj h]
  initiator_fresh := ⟨InitiatorRecord.tidy_fresh, InitiatorRecord.tidy_fresh, rfl⟩
  initiator_name := by
    rintro r s name ⟨hr, hs, h⟩
    exact ⟨hr, hs, by rw [r.entries_name, s.entries_name, h]⟩
  initiator_alias := by
    rintro r s aliasName ⟨hr, hs, h⟩
    exact ⟨hr, hs, by rw [r.entries_alias, s.entries_alias, h]⟩
  initiator_auth := by
    rintro r s tag ⟨hr, hs, h⟩
    exact ⟨hr, hs, by rw [r.entries_authentication, s.entries_authentication, h]⟩
  discovery_fresh := rfl
  discovery_merge := by
    rintro d e r rfl
    rfl

/-! ### What records with the same encoding show -/

section Encoded

variable {r s : TargetRecord} {p q : PortalRecord} {i j : InitiatorRecord}

theorem target_eq_of_encoded (h : Likeness.encoded.target r s) : r.target = s.target := by
  obtain ⟨hr, hs, h⟩ := h
  rw [← hr.get?_entries_target, ← hs.get?_entries_target, h]

theorem session_eq_of_encoded (h : Likeness.encoded.target r s) : r.session = s.session := by
  obtain ⟨hr, hs, h⟩ := h
  rw [← hr.get?_entries_session, ← hs.get?_entries_session, h]

theorem authMethod?_eq_of_encoded (h : Likeness.encoded.target r s) :
    r.authMethod? = s.authMethod? := by
  obtain ⟨hr, hs, h⟩ := h
  rw [TargetRecord.authMethod?, TargetRecord.authMethod?, ← hr.authTag?_entries,
    ← hs.authTag?_entries, h]

theorem portal_eq_of_encoded (h : Likeness.encoded.portal p q) : p.portal = q.portal := by
  have hentries := congrArg (Entries.get? PortalRecord.portalKey) (Node.mapping.inj h)
  rw [PortalRecord.get?_entries, PortalRecord.get?_entries] at hentries
  exact Option.some.inj hentries

theorem connection_eq_of_encoded (h : Likeness.encoded.portal p q) :
    p.connection = q.connection := by
  have hentries := congrArg (Entries.get? PortalRecord.connectionKey) (Node.mapping.inj h)
  rw [PortalRecord.get?_entries, PortalRecord.get?_entries] at hentries
  exact Option.some.inj hentries

theorem name_eq_of_encoded (h : Likeness.encoded.initiator i j) : i.name = j.name := by
  have hentries := congrArg (Entries.get? InitiatorRecord.nameKey) h.2.2
  rw [InitiatorRecord.get?_entries_name, InitiatorRecord.get?_entries_name] at hentries
  exact Node.scalar.inj (Option.some.inj hentries)

theorem aliasName_eq_of_encoded (h : Likeness.encoded.initiator i j) :
    i.aliasName = j.aliasName := by
  have hentries := congrArg (Entries.get? InitiatorRecord.aliasKey) h.2.2
  rw [InitiatorRecord.get?_entries_alias, InitiatorRecord.get?_entries_alias] at hentries
  exact Node.scalar.inj (Option.some.inj hentries)

theorem initiatorMethod?_eq_of_encoded (h : Likeness.encoded.initiator i j) :
    i.authMethod? = j.authMethod? := by
  obtain ⟨hi, hj, h⟩ := h
  rw [InitiatorRecord.authMethod?, InitiatorRecord.authMethod?, ← hi.authTag?_entries,
    ← hj.authTag?_entries, h]

end Encoded

/-! ### Values of a namespace -/

namespace Cache

variable {c d : Cache} {ns : Namespace}

theorem AlikeAt.node?_eq (h : AlikeAt Likeness.encoded ns c d) : c.node? ns = d.node? ns := by
  cases ns with
  | targets =>
    exact map_eq_of_rel
      (fun _ _ h => alike_toNode_iff.1 (h.mono fun _ _ h => congrArg Node.mapping h.2.2)) h
  | initiator => exact map_eq_of_rel (fun _ _ h => congrArg Node.mapping h.2.2) h
  | discovery => exact map_eq_of_rel (fun _ _ h => congrArg toNode h) h

/-- Targets that are read keep nothing aside that is understood. -/
theorem alike_of_ofNode? {n : Node} {t : TargetTable} (h : ofNode? n = some t) :
    Entries.Alike Likeness.encoded.target t t := by
  obtain ⟨m, -, rfl⟩ := Option.map_eq_some_iff.1
    (show n.entries?.map (·.filterMapVals ofNode?) = some t from h)
  -- each record has just been read, and reading keeps aside only what it does not understand
  intro k
  cases hk : (m.filterMapVals ofNode? : TargetTable).get? k with
  | none => exact .none
  | some r =>
    rw [Entries.get?_filterMapVals] at hk
    obtain ⟨n', -, hr⟩ := Option.bind_eq_some_iff.1 hk
    obtain ⟨m', -, rfl⟩ := Option.map_eq_some_iff.1
      (show n'.entries?.map TargetRecord.ofEntries = some r from hr)
    exact .some ⟨TargetRecord.tidy_ofEntries m', TargetRecord.tidy_ofEntries m', rfl⟩

/-- Targets that are written and read again are like what they were. -/
theorem alike_ofNode?_toNode {t : TargetTable} (h : Entries.Alike Likeness.encoded.target t t) :
    Option.Rel (Entries.Alike Likeness.encoded.target) (some t) (ofNode? (toNode t)) := by
  refine .some fun k => ?_
  have hk := h k
  rw [Entries.get?_filterMapVals, Entries.get?_mapVals]
  generalize t.get? k = a at hk ⊢
  cases hk with
  | none => exact .none
  | @some r _ hr =>
    refine .some ⟨hr.1, TargetRecord.tidy_ofEntries r.entries, ?_⟩
    exact (Node.mapping.inj (Option.some.inj hr.1.readsBack)).symm

theorem alikeAt_load (ns : Namespace) (c d : Cache) (n : Option Node) :
    AlikeAt Likeness.encoded ns (c.load ns n) (d.load ns n) := by
  cases ns with
  | targets =>
    change Option.Rel _ (n.bind ofNode?) (n.bind ofNode?)
    cases h : n.bind (ofNode? (α := TargetTable)) with
    | none => exact .none
    | some t =>
      obtain ⟨n', -, ht⟩ := Option.bind_eq_some_iff.1 h
      exact .some (alike_of_ofNode? ht)
  | initiator =>
    change Option.Rel _ (n.bind ofNode?) (n.bind ofNode?)
    cases h : n.bind (ofNode? (α := InitiatorRecord)) with
    | none => exact .none
    | some r =>
      obtain ⟨n', -, hr⟩ := Option.bind_eq_some_iff.1 h
      obtain ⟨m, -, rfl⟩ := Option.map_eq_some_iff.1
        (show n'.entries?.map InitiatorRecord.ofEntries = some r from hr)
      exact .some ⟨InitiatorRecord.tidy_ofEntries m, InitiatorRecord.tidy_ofEntries m, rfl⟩
  | discovery =>
    change Option.Rel _ (n.bind ofNode?) (n.bind ofNode?)
    cases n.bind (ofNode? (α := Document)) with
    | none => exact .none
    | some d => exact .some rfl

/-- A value is like the one that its own node is read as. -/
theorem AlikeAt.load_node? (h : AlikeAt Likeness.encoded ns c c) (d : Cache) :
    AlikeAt Likeness.encoded ns c (d.load ns (c.node? ns)) := by
  cases ns with
  | targets =>
    change Option.Rel _ _ ((c.targets.value.map toNode).bind ofNode?)
    have h : Option.Rel _ c.targets.value c.targets.value := h
    generalize c.targets.value = a at h ⊢
    cases h with
    | none => exact .none
    | some h => exact alike_ofNode?_toNode h
  | initiator =>
    change Option.Rel _ _ ((c.initiator.value.map toNode).bind ofNode?)
    have h : Option.Rel _ c.initiator.value c.initiator.value := h
    generalize c.initiator.value = a at h ⊢
    cases h with
    | none => exact .none
    | @some r _ h =>
      refine .some ⟨h.1, InitiatorRecord.tidy_ofEntries r.entries, ?_⟩
      exact (Node.mapping.inj (Option.some.inj r.readsBack)).symm
  | discovery =>
    change Option.Rel _ _ ((c.discovery.value.map toNode).bind ofNode?)
    cases c.discovery.value with
    | none => exact .none
    | some d =>
      refine .some (Entries.ext_get? fun k => ?_)
      rw [Entries.get?_filterMapVals, Entries.get?_mapVals]
      cases d.get? k <;> rfl

end Cache

/-! ### Answers -/

/-- Two answers are the same, except that a record may be another one with the same encoding and
that a list of calls may be any other. -/
def StoreAnswer.Alike : StoreAnswer → StoreAnswer → Prop
  | .targets a, .targets b => a.map toNode = b.map toNode
  | .target a, .target b => a.map toNode = b.map toNode
  | .portals a, .portals b => a.map toNode = b.map toNode
  | .portal a, .portal b => a.map toNode = b.map toNode
  | .initiator a, .initiator b => a.map toNode = b.map toNode
  | .calls _, .calls _ => True
  | a, b => a = b

theorem StoreAnswer.Alike.refl (a : StoreAnswer) : a.Alike a := by
  cases a <;> trivial

namespace Store

variable {s t : Store}

theorem Alike.initiatorNode_eq (h : Alike Likeness.encoded s t) :
    s.initiatorNode = t.initiatorNode := by
  have hvalue := h.cache.initiator.value
  exact congrArg (Option.getD · "") (map_eq_of_rel (fun _ _ => name_eq_of_encoded) hvalue)

/-- Stores whose caches have the same encodings answer every operation alike, but a
synchronization, which is another matter. -/
theorem Alike.answer (h : Alike Likeness.encoded s t) {op : StoreOp} (hop : op ≠ .synchronize)
    (v : Vault) (m m' : Medium) : (op.run s v m).answer.Alike (op.run t v m').answer := by
  have hL := Likeness.kept_encoded
  have h' := h.run hL hop v v m m'
  have htarget := h.cache.targets.target?
  have hportals := h.cache.targets.portals? hL
  have hportal := h.cache.targets.portal? hL
  cases op with
  | synchronize => exact absurd rfl hop
  -- what is handed out as a record is looked up after the operation, which may have made it
  | targets => exact (h'.cache.at .targets).node?_eq
  | target name =>
    exact map_eq_of_rel (fun _ _ h => congrArg Node.mapping h.2.2) (h'.cache.targets.target? name)
  | portals name =>
    exact map_eq_of_rel (fun _ _ => alike_toNode_iff.1) (h'.cache.targets.portals? hL name)
  | portal name address =>
    exact rel_toNode_iff.1 (h'.cache.targets.portal? hL name address)
  | initiator => exact (h'.cache.at .initiator).node?_eq
  -- what is read from a record depends on its encoding only
  | session name =>
    refine congrArg StoreAnswer.session (bind_eq_of_rel (fun _ _ h => ?_) (htarget name))
    rw [session_eq_of_encoded h]
  | connection name address =>
    refine congrArg StoreAnswer.connection (bind_eq_of_rel (fun _ _ h => ?_) (hportal name address))
    rw [connection_eq_of_encoded h]
  | portalData name address =>
    refine congrArg StoreAnswer.portalData (bind_eq_of_rel (fun _ _ h => ?_) (hportal name address))
    rw [portal_eq_of_encoded h]
  | targetData name =>
    refine congrArg StoreAnswer.targetData (bind_eq_of_rel (fun _ _ h => ?_) (htarget name))
    rw [target_eq_of_encoded h]
  | targetNames =>
    refine congrArg StoreAnswer.texts (bind_eq_of_rel (fun _ _ h => ?_) h.cache.targets.value)
    rw [keys?, keys?, h.isEmpty_eq, h.keys_eq]
  | portalAddresses name =>
    refine congrArg StoreAnswer.texts (bind_eq_of_rel (fun _ _ h => ?_) (hportals name))
    rw [keys?, keys?, h.isEmpty_eq, h.keys_eq]
  | containsTarget name => exact congrArg StoreAnswer.flag (isSome_eq_of_rel (htarget name))
  | containsPortal name address =>
    exact congrArg StoreAnswer.flag (isSome_eq_of_rel (hportal name address))
  | targetAuth name =>
    refine congrArg StoreAnswer.auth (map_eq_of_rel (fun _ _ h => ?_) (htarget name))
    rw [authMethod?_eq_of_encoded h]
  | initiatorAuth =>
    refine congrArg StoreAnswer.auth (map_eq_of_rel (fun _ _ h => ?_) h.cache.initiator.value)
    rw [name_eq_of_encoded h, initiatorMethod?_eq_of_encoded h]
  | initiatorName =>
    exact congrArg StoreAnswer.text
      (map_eq_of_rel (fun _ _ => name_eq_of_encoded) h.cache.initiator.value)
  | initiatorAlias =>
    exact congrArg StoreAnswer.text
      (map_eq_of_rel (fun _ _ => aliasName_eq_of_encoded) h.cache.initiator.value)
  | discovery =>
    exact congrArg StoreAnswer.discovery (bind_eq_of_rel
      (fun _ _ h => congrArg (fun d => ofNode? (toNode d)) h) h.cache.discovery.value)
  | removal => exact congrArg (fun r => StoreAnswer.text (some (Removal.name r))) h.removal
  | secret node =>
    simp only [StoreOp.run]
    split <;> exact .refl _
  | setSecret node c =>
    simp only [StoreOp.run]
    split <;> exact .refl _
  -- the rest answer that they are done, whatever the store
  | removeTarget | removePortal | setSession | setConnection | setPortal | setTarget
  | setTargetAuth | setInitiatorAuth | setInitiatorName | setInitiatorAlias | addDiscovery
  | clearDiscovery | refuse => rfl
  | takeCalls => trivial

/-- Stores whose caches have the same encodings leave the same vault. -/
theorem Alike.vault_eq (h : Alike Likeness.encoded s t) {op : StoreOp} (hop : op ≠ .synchronize)
    (v : Vault) (m m' : Medium) : (op.run s v m).vault = (op.run t v m').vault := by
  cases op with
  | synchronize => exact absurd rfl hop
  | setInitiatorAuth a => exact congrArg (v.keep · a) h.initiatorNode_eq
  | secret node =>
    simp only [StoreOp.run]
    split <;> rfl
  | setSecret node c =>
    simp only [StoreOp.run]
    split <;> rfl
  | _ => rfl

end Store

end InitiatorStore
