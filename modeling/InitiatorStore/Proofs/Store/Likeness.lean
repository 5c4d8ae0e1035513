import InitiatorStore.Keyed.Lemmas
import InitiatorStore.Proofs.Cache
import InitiatorStore.Store.Operation

/-!
# Caches that are alike

Two caches are alike when they hold like records in like places and carry the same marks.  What it
is for two records to be alike is left open here: a `Likeness` says it for each kind of record.  If
it is kept by all that operations do to a single record (`Likeness.Kept`), then it is kept by every
operation on a store but `StoreOp.synchronize` (`Store.Alike.run`).
-/

namespace InitiatorStore

/-! ### Options -/

section Option

variable {α β : Type} {R : α → α → Prop} {S : β → β → Prop} {a b : Option α}

theorem isSome_eq_of_rel (h : Option.Rel R a b) : a.isSome = b.isSome := by
  cases h <;> rfl

theorem rel_map {f g : α → β} (hf : ∀ v w, R v w → S (f v) (g w)) (h : Option.Rel R a b) :
    Option.Rel S (a.map f) (b.map g) := by
  cases h with
  | some h => exact .some (hf _ _ h)
  | none => exact .none

theorem rel_bind {f g : α → Option β} (hf : ∀ v w, R v w → Option.Rel S (f v) (g w))
    (h : Option.Rel R a b) : Option.Rel S (a.bind f) (b.bind g) := by
  cases h with
  | some h => exact hf _ _ h
  | none => exact .none

theorem map_eq_of_rel {f g : α → β} (hf : ∀ v w, R v w → f v = g w) (h : Option.Rel R a b) :
    a.map f = b.map g := by
  cases h with
  | some h => exact congrArg some (hf _ _ h)
  | none => rfl

theorem bind_eq_of_rel {f g : α → Option β} (hf : ∀ v w, R v w → f v = g w)
    (h : Option.Rel R a b) : a.bind f = b.bind g := by
  cases h with
  | some h => exact hf _ _ h
  | none => rfl

end Option

/-! ### Maps -/

namespace Entries

variable {α : Type} {R : α → α → Prop} {m n : Keyed α} {v w : α} {f g : α → α}

/-- Two maps have the same keys, and like values under them. -/
def Alike (R : α → α → Prop) (m n : Keyed α) : Prop := ∀ k, Option.Rel R (m.get? k) (n.get? k)

theorem alike_empty : Alike R ∅ ∅ := fun _ => .none

theorem Alike.mono {S : α → α → Prop} (h : Alike R m n) (hS : ∀ v w, R v w → S v w) :
    Alike S m n := by
  intro k
  have hk := h k
  generalize m.get? k = a at hk ⊢
  generalize n.get? k = b at hk ⊢
  cases hk with
  | some hk => exact .some (hS _ _ hk)
  | none => exact .none

theorem Alike.contains_eq (h : Alike R m n) (k : String) : m.contains k = n.contains k :=
  isSome_eq_of_rel (h k)

/-- The two maps have the same keys in the same order. -/
theorem Alike.mapVals_eq (h : Alike R m n) :
    m.mapVals (fun _ => ()) = n.mapVals fun _ => () := by
  refine ext_get? fun k => ?_
  rw [get?_mapVals, get?_mapVals]
  exact map_eq_of_rel (fun _ _ _ => rfl) (h k)

theorem Alike.keys_eq (h : Alike R m n) : m.keys = n.keys := by
  rw [← keys_mapVals (fun _ => ()), h.mapVals_eq, keys_mapVals]

theorem Alike.isEmpty_eq (h : Alike R m n) : m.isEmpty = n.isEmpty := by
  rw [← isEmpty_mapVals (fun _ => ()), h.mapVals_eq, isEmpty_mapVals]

theorem Alike.insert (h : Alike R m n) (hv : R v w) (k : String) :
    Alike R (m.insert k v) (n.insert k w) := by
  intro k'
  rw [get?_insert, get?_insert]
  split
  · exact .some hv
  · exact h k'

theorem Alike.erase (h : Alike R m n) (k : String) : Alike R (m.erase k) (n.erase k) := by
  intro k'
  rw [get?_erase, get?_erase]
  split
  · exact .none
  · exact h k'

theorem Alike.modify (h : Alike R m n) (hf : ∀ v w, R v w → R (f v) (g w)) (k : String) :
    Alike R (m.modify k f) (n.modify k g) := by
  intro k'
  rw [get?_modify, get?_modify]
  split
  · exact rel_map hf (h k')
  · exact h k'

end Entries

/-! ### Slots -/

namespace Slot

variable {α : Type} {R : α → α → Prop} {s t : Slot α} {v w : α} {f g : α → α}

/-- Two slots hold like values, or none, and carry the same mark. -/
structure Alike (R : α → α → Prop) (s t : Slot α) : Prop where
  value : Option.Rel R s.value t.value
  modified : s.modified = t.modified

theorem alike_empty : Alike R {} {} := ⟨.none, rfl⟩

theorem Alike.mark (h : Alike R s t) : Alike R s.mark t.mark := ⟨h.value, rfl⟩

theorem Alike.markIf (h : Alike R s t) (changed : Bool) :
    Alike R (s.markIf changed) (t.markIf changed) :=
  ⟨h.value, congrArg (· || changed) h.modified⟩

theorem Alike.settle (h : Alike R s t) : Alike R s.settle t.settle := ⟨h.value, rfl⟩

theorem Alike.modify (h : Alike R s t) (hf : ∀ v w, R v w → R (f v) (g w)) :
    Alike R (s.modify f) (t.modify g) :=
  ⟨rel_map hf h.value, h.modified⟩

theorem Alike.replace (h : Alike R s t) {a b : Option α} (hab : Option.Rel R a b) :
    Alike R (s.replace a) (t.replace b) :=
  ⟨hab, h.modified⟩

theorem Alike.ensure (h : Alike R s t) (hv : R v w) : Alike R (s.ensure v) (t.ensure w) := by
  obtain ⟨value, modified⟩ := s
  obtain ⟨value', modified'⟩ := t
  obtain ⟨hvalue, rfl⟩ := h
  cases hvalue with
  | some hvalue => exact ⟨.some hvalue, rfl⟩
  | none => exact ⟨.some hv, rfl⟩

theorem Alike.ensureIf (h : Alike R s t) (hv : R v w) (create : Bool) :
    Alike R (s.ensureIf create v) (t.ensureIf create w) := by
  cases create with
  | false => exact h
  | true => exact h.ensure hv

end Slot

/-! ### Records -/

/-- What it is for two records of a kind to be alike. -/
structure Likeness where
  target : TargetRecord → TargetRecord → Prop
  portal : PortalRecord → PortalRecord → Prop
  initiator : InitiatorRecord → InitiatorRecord → Prop
  discovery : Document → Document → Prop

/-- All that operations do to a single record makes like records of like ones. -/
structure Likeness.Kept (L : Likeness) : Prop where
  target_fresh : L.target {} {}
  target_data : ∀ {r s : TargetRecord} (t : Target), L.target r s →
    L.target { r with target := some (toNode t) } { s with target := some (toNode t) }
  target_session : ∀ {r s : TargetRecord} (c : Session), L.target r s →
    L.target { r with session := some (toNode c) } { s with session := some (toNode c) }
  target_auth : ∀ {r s : TargetRecord} (tag : String), L.target r s →
    L.target { r with authentication := some tag } { s with authentication := some tag }
  /-- Like targets have like portals. -/
  portals : ∀ {r s : TargetRecord}, L.target r s →
    Option.Rel (Entries.Alike L.portal) r.portals s.portals
  target_portals : ∀ {r s : TargetRecord} {p q : PortalTable}, L.target r s →
    Entries.Alike L.portal p q → L.target { r with portals := some p } { s with portals := some q }
  portal_fresh : L.portal {} {}
  portal_data : ∀ {r s : PortalRecord} (p : Portal), L.portal r s →
    L.portal { r with portal := toNode p } { s with portal := toNode p }
  portal_connection : ∀ {r s : PortalRecord} (c : Connection), L.portal r s →
    L.portal { r with connection := toNode c } { s with connection := toNode c }
  initiator_fresh : L.initiator {} {}
  initiator_name : ∀ {r s : InitiatorRecord} (name : String), L.initiator r s →
    L.initiator { r with name } { s with name }
  initiator_alias : ∀ {r s : InitiatorRecord} (aliasName : String), L.initiator r s →
    L.initiator { r with aliasName } { s with aliasName }
  initiator_auth : ∀ {r s : InitiatorRecord} (tag : String), L.initiator r s →
    L.initiator { r with authentication := some tag } { s with authentication := some tag }
  discovery_fresh : L.discovery ∅ ∅
  discovery_merge : ∀ {d e : Document} (r : DiscoveryRecord), L.discovery d e →
    L.discovery (d.merge r.entries) (e.merge r.entries)

/-! ### Levels of the table -/

namespace Slot

variable {L : Likeness} {s t : Slot TargetTable}

/-- Two slots hold like tables of targets. -/
abbrev AlikeTargets (L : Likeness) : Slot TargetTable → Slot TargetTable → Prop :=
  Alike (Entries.Alike L.target)

theorem AlikeTargets.target? (h : AlikeTargets L s t) (name : String) :
    Option.Rel L.target (s.target? name) (t.target? name) :=
  rel_bind (fun _ _ h => h name) h.value

theorem AlikeTargets.portals? (hL : L.Kept) (h : AlikeTargets L s t) (name : String) :
    Option.Rel (Entries.Alike L.portal) (s.portals? name) (t.portals? name) :=
  rel_bind (fun _ _ => hL.portals) (h.target? name)

theorem AlikeTargets.portal? (hL : L.Kept) (h : AlikeTargets L s t) (name address : String) :
    Option.Rel L.portal (s.portal? name address) (t.portal? name address) :=
  rel_bind (fun _ _ h => h address) (h.portals? hL name)

theorem AlikeTargets.modifyTarget (h : AlikeTargets L s t) {f g : TargetRecord → TargetRecord}
    (hf : ∀ r s, L.target r s → L.target (f r) (g s)) (name : String) :
    AlikeTargets L (s.modifyTarget name f) (t.modifyTarget name g) :=
  h.modify fun _ _ h => h.modify hf name

theorem AlikeTargets.modifyPortals (hL : L.Kept) (h : AlikeTargets L s t)
    {f g : PortalTable → PortalTable}
    (hf : ∀ p q, Entries.Alike L.portal p q → Entries.Alike L.portal (f p) (g q))
    (name : String) : AlikeTargets L (s.modifyPortals name f) (t.modifyPortals name g) := by
  refine h.modifyTarget (fun r s hr => ?_) name
  -- like targets have a list of portals both or neither
  have hportals := hL.portals hr
  obtain ⟨_, _, _, portals, _⟩ := r
  obtain ⟨_, _, _, portals', _⟩ := s
  cases hportals with
  | some hportals => exact hL.target_portals hr (hf _ _ hportals)
  | none => exact hr

theorem AlikeTargets.modifyPortal (hL : L.Kept) (h : AlikeTargets L s t)
    {f g : PortalRecord → PortalRecord} (hf : ∀ r s, L.portal r s → L.portal (f r) (g s))
    (name address : String) :
    AlikeTargets L (s.modifyPortal name address f) (t.modifyPortal name address g) :=
  h.modifyPortals hL (fun _ _ h => h.modify hf address) name

theorem AlikeTargets.ensureTarget (hL : L.Kept) (h : AlikeTargets L s t) (name : String) :
    AlikeTargets L (s.ensureTarget name) (t.ensureTarget name) := by
  have htable : AlikeTargets L (s.ensure ∅) (t.ensure ∅) := h.ensure Entries.alike_empty
  have hfound := htable.target? name
  simp only [Slot.ensureTarget]
  generalize (s.ensure ∅).target? name = a at hfound ⊢
  generalize (t.ensure ∅).target? name = b at hfound ⊢
  cases hfound with
  | some => exact htable
  | none => exact (htable.modify fun _ _ h => h.insert hL.target_fresh name).mark

theorem AlikeTargets.ensurePortals (hL : L.Kept) (h : AlikeTargets L s t) (name : String) :
    AlikeTargets L (s.ensurePortals name) (t.ensurePortals name) := by
  have htarget := h.ensureTarget hL name
  have hfound := htarget.portals? hL name
  simp only [Slot.ensurePortals]
  generalize (s.ensureTarget name).portals? name = a at hfound ⊢
  generalize (t.ensureTarget name).portals? name = b at hfound ⊢
  cases hfound with
  | some => exact htarget
  | none =>
    exact (htarget.modifyTarget
      (fun _ _ hr => hL.target_portals hr Entries.alike_empty) name).mark

theorem AlikeTargets.ensurePortal (hL : L.Kept) (h : AlikeTargets L s t)
    (name address : String) :
    AlikeTargets L (s.ensurePortal name address) (t.ensurePortal name address) := by
  have hportals := h.ensurePortals hL name
  have hfound := hportals.portal? hL name address
  simp only [Slot.ensurePortal]
  generalize (s.ensurePortals name).portal? name address = a at hfound ⊢
  generalize (t.ensurePortals name).portal? name address = b at hfound ⊢
  cases hfound with
  | some => exact hportals
  | none =>
    exact (hportals.modifyPortals hL (fun _ _ h => h.insert hL.portal_fresh address) name).mark

end Slot

/-! ### Caches and stores -/

/-- Two caches hold like values in like places and carry the same marks. -/
structure Cache.Alike (L : Likeness) (c d : Cache) : Prop where
  targets : Slot.AlikeTargets L c.targets d.targets
  initiator : Slot.Alike L.initiator c.initiator d.initiator
  discovery : Slot.Alike L.discovery c.discovery d.discovery

namespace Cache

variable {L : Likeness} {c d : Cache}

theorem alike_empty (L : Likeness) : Alike L {} {} :=
  ⟨Slot.alike_empty, Slot.alike_empty, Slot.alike_empty⟩

theorem Alike.isModified_eq (h : Alike L c d) (ns : Namespace) :
    c.isModified ns = d.isModified ns := by
  cases ns with
  | targets => exact h.targets.modified
  | initiator => exact h.initiator.modified
  | discovery => exact h.discovery.modified

theorem Alike.isPresent_eq (h : Alike L c d) (ns : Namespace) :
    c.isPresent ns = d.isPresent ns := by
  cases ns with
  | targets => exact isSome_eq_of_rel h.targets.value
  | initiator => exact isSome_eq_of_rel h.initiator.value
  | discovery => exact isSome_eq_of_rel h.discovery.value

theorem Alike.modified_eq (h : Alike L c d) : c.modified = d.modified := by
  rw [modified, modified, funext h.isModified_eq]

/-- Two caches hold like values of a namespace, or both hold none. -/
def AlikeAt (L : Likeness) (ns : Namespace) (c d : Cache) : Prop :=
  match ns with
  | .targets => Option.Rel (Entries.Alike L.target) c.targets.value d.targets.value
  | .initiator => Option.Rel L.initiator c.initiator.value d.initiator.value
  | .discovery => Option.Rel L.discovery c.discovery.value d.discovery.value

theorem Alike.at (h : Alike L c d) (ns : Namespace) : AlikeAt L ns c d := by
  cases ns with
  | targets => exact h.targets.value
  | initiator => exact h.initiator.value
  | discovery => exact h.discovery.value

theorem alike_of_at (h : ∀ ns, AlikeAt L ns c d)
    (hmodified : ∀ ns, c.isModified ns = d.isModified ns) : Alike L c d :=
  ⟨⟨h .targets, hmodified .targets⟩, ⟨h .initiator, hmodified .initiator⟩,
    ⟨h .discovery, hmodified .discovery⟩⟩

theorem Alike.settle (h : Alike L c d) : Alike L c.settle d.settle :=
  ⟨h.targets.settle, h.initiator.settle, h.discovery.settle⟩

/-- Likeness of a namespace depends on the values of that namespace only. -/
theorem AlikeAt.congr {ns : Namespace} (h : AlikeAt L ns c d) {c' d' : Cache}
    (hc : Agree ns c' c) (hd : Agree ns d' d) : AlikeAt L ns c' d' := by
  cases ns with
  | targets =>
    have hc : c'.targets.value = c.targets.value := hc
    have hd : d'.targets.value = d.targets.value := hd
    simp only [AlikeAt, hc, hd]
    exact h
  | initiator =>
    have hc : c'.initiator.value = c.initiator.value := hc
    have hd : d'.initiator.value = d.initiator.value := hd
    simp only [AlikeAt, hc, hd]
    exact h
  | discovery =>
    have hc : c'.discovery.value = c.discovery.value := hc
    have hd : d'.discovery.value = d.discovery.value := hd
    simp only [AlikeAt, hc, hd]
    exact h

end Cache

namespace Store

variable {L : Likeness} {s t : Store}

/-- Two stores have caches that are alike, and remove alike. -/
structure Alike (L : Likeness) (s t : Store) : Prop where
  cache : Cache.Alike L s.cache t.cache
  removal : s.removal = t.removal

theorem Alike.onTargets (h : Alike L s t) {f g : Slot TargetTable → Slot TargetTable}
    (hf : Slot.AlikeTargets L (f s.cache.targets) (g t.cache.targets)) :
    Alike L (s.onTargets f) (t.onTargets g) :=
  ⟨⟨hf, h.cache.initiator, h.cache.discovery⟩, h.removal⟩

theorem Alike.onInitiator (h : Alike L s t) {f g : Slot InitiatorRecord → Slot InitiatorRecord}
    (hf : Slot.Alike L.initiator (f s.cache.initiator) (g t.cache.initiator)) :
    Alike L (s.onInitiator f) (t.onInitiator g) :=
  ⟨⟨h.cache.targets, hf, h.cache.discovery⟩, h.removal⟩

theorem Alike.removeTarget (h : Alike L s t) (name : String) :
    Alike L (s.removeTarget name) (t.removeTarget name) := by
  have hfound := h.cache.targets.value
  unfold Store.removeTarget Store.targets?
  generalize hs : s.cache.targets.value = a at hfound ⊢
  generalize ht : t.cache.targets.value = b at hfound ⊢
  cases hfound with
  | none => exact h
  | some hfound =>
    refine h.onTargets ?_
    rw [hfound.contains_eq name, h.removal]
    exact (h.cache.targets.modify fun _ _ h => h.erase name).markIf _

theorem Alike.removePortal (hL : L.Kept) (h : Alike L s t) (name address : String) :
    Alike L (s.removePortal name address) (t.removePortal name address) := by
  have hfound := h.cache.targets.portals? hL name
  unfold Store.removePortal Store.portals?
  generalize s.cache.targets.portals? name = a at hfound ⊢
  generalize t.cache.targets.portals? name = b at hfound ⊢
  cases hfound with
  | none => exact h
  | some hfound =>
    refine h.onTargets ?_
    rw [hfound.contains_eq address, h.removal]
    exact (h.cache.targets.modifyPortals hL (fun _ _ h => h.erase address) name).markIf _

/-- A change of the initiator that makes its record where there is none. -/
theorem Alike.onInitiator_modify (hL : L.Kept) (h : Alike L s t)
    {f : InitiatorRecord → InitiatorRecord}
    (hf : ∀ r s, L.initiator r s → L.initiator (f r) (f s)) :
    Alike L (s.onInitiator fun i => ((i.ensure {}).modify f).mark)
      (t.onInitiator fun i => ((i.ensure {}).modify f).mark) :=
  h.onInitiator ((h.cache.initiator.ensure hL.initiator_fresh).modify hf).mark

/-- A change of a target that makes its record where there is none. -/
theorem Alike.onTargets_modifyTarget (hL : L.Kept) (h : Alike L s t) (name : String)
    {f : TargetRecord → TargetRecord} (hf : ∀ r s, L.target r s → L.target (f r) (f s)) :
    Alike L (s.onTargets fun i => ((i.ensureTarget name).modifyTarget name f).mark)
      (t.onTargets fun i => ((i.ensureTarget name).modifyTarget name f).mark) :=
  h.onTargets ((h.cache.targets.ensureTarget hL name).modifyTarget hf name).mark

/-- A change of a portal that makes its record where there is none. -/
theorem Alike.onTargets_modifyPortal (hL : L.Kept) (h : Alike L s t) (name address : String)
    {f : PortalRecord → PortalRecord} (hf : ∀ r s, L.portal r s → L.portal (f r) (f s)) :
    Alike L
      (s.onTargets fun i => ((i.ensurePortal name address).modifyPortal name address f).mark)
      (t.onTargets fun i => ((i.ensurePortal name address).modifyPortal name address f).mark) :=
  h.onTargets
    ((h.cache.targets.ensurePortal hL name address).modifyPortal hL hf name address).mark

theorem Alike.addDiscovery (hL : L.Kept) (h : Alike L s t) (r : DiscoveryRecord) :
    Alike L (s.addDiscovery r) (t.addDiscovery r) := by
  have hfresh := h.cache.discovery.ensure hL.discovery_fresh
  exact ⟨⟨h.cache.targets, h.cache.initiator,
    (hfresh.modify fun _ _ => hL.discovery_merge r).mark⟩, h.removal⟩

theorem Alike.clearDiscovery (h : Alike L s t) : Alike L s.clearDiscovery t.clearDiscovery :=
  ⟨⟨h.cache.targets, h.cache.initiator, (h.cache.discovery.replace .none).mark⟩, h.removal⟩

/-- Every operation but a synchronization makes like stores of like stores. -/
theorem Alike.run (hL : L.Kept) (h : Alike L s t) {op : StoreOp} (hop : op ≠ .synchronize)
    (v v' : Vault) (m m' : Medium) :
    Alike L (op.run s v m).store (op.run t v' m').store := by
  cases op with
  | synchronize => exact absurd rfl hop
  | targets create => exact h.onTargets (h.cache.targets.ensureIf Entries.alike_empty create)
  | target name create =>
    cases create with
    | false => exact h
    | true => exact h.onTargets (h.cache.targets.ensureTarget hL name)
  | portals name create =>
    cases create with
    | false => exact h
    | true => exact h.onTargets (h.cache.targets.ensurePortals hL name)
  | portal name address create =>
    cases create with
    | false => exact h
    | true => exact h.onTargets (h.cache.targets.ensurePortal hL name address)
  | initiator create =>
    exact h.onInitiator (h.cache.initiator.ensureIf hL.initiator_fresh create)
  | removeTarget name => exact h.removeTarget name
  | removePortal name address => exact h.removePortal hL name address
  | setSession name c => exact h.onTargets_modifyTarget hL name fun _ _ => hL.target_session c
  | setConnection name address c =>
    exact h.onTargets_modifyPortal hL name address fun _ _ => hL.portal_connection c
  | setPortal name p =>
    exact h.onTargets_modifyPortal hL name p.address fun _ _ => hL.portal_data p
  | setTarget t => exact h.onTargets_modifyTarget hL t.name fun _ _ => hL.target_data t
  | setTargetAuth name auth =>
    exact h.onTargets_modifyTarget hL name fun _ _ => hL.target_auth auth.method.tag
  | setInitiatorAuth auth =>
    exact h.onInitiator_modify hL fun _ _ => hL.initiator_auth auth.method.tag
  | setInitiatorName name => exact h.onInitiator_modify hL fun _ _ => hL.initiator_name name
  | setInitiatorAlias aliasName =>
    exact h.onInitiator_modify hL fun _ _ => hL.initiator_alias aliasName
  | addDiscovery r => exact h.addDiscovery hL r
  | clearDiscovery => exact h.clearDiscovery
  | secret node =>
    simp only [StoreOp.run]
    split <;> split <;> exact h
  | setSecret node c =>
    simp only [StoreOp.run]
    split <;> split <;> exact h
  | session | connection | portalData | targetData | targetNames | portalAddresses
  | containsTarget | containsPortal | targetAuth | initiatorAuth | initiatorName
  | initiatorAlias | discovery | removal => exact h
  | refuse | takeCalls => exact ⟨h.cache, h.removal⟩

end Store

end InitiatorStore
