import InitiatorStore.Keyed.Lemmas
import InitiatorStore.Proofs.Cache
import InitiatorStore.Proofs.Store.Operation

/-!
# What operations do to the namespaces

An operation but a synchronization changes one namespace at most (`StoreOp.subject?`), and there are
three things that it may do to the slot of that namespace (`Slot.Follows`): it leaves the slot as it
is, it makes the empty value where there was none, or it leaves the slot marked, whatever the slot
holds then.  `StoreOp.follows_run` says so of every operation, with the three levels at which a
look-up may create, the setters and the removals as its cases.

Three things follow for every operation: it takes no mark off (`StoreOp.isModified_run`), it leaves
a namespace that it is not about alone (`Cache.Follows.agree_of_ne`), and what it changes without a
mark is untouched in the sense of `Cache.Untouched` (`Cache.Follows.untouched`).
-/

namespace InitiatorStore

/-! ### Slots -/

namespace Slot

/-- What an operation may make of a slot. -/
inductive Follows {α : Type} (fresh : α) (s : Slot α) : Slot α → Prop
  /-- The slot is as it was. -/
  | kept : Follows fresh s s
  /-- There was no value, and the empty one has been made. -/
  | made : s.value = none → Follows fresh s { s with value := some fresh }
  /-- The slot is marked, whatever it holds. -/
  | marked {t : Slot α} : t.modified = true → Follows fresh s t

section

variable {α : Type} {fresh : α} {s : Slot α}

theorem follows_ensure : Follows fresh s (s.ensure fresh) := by
  obtain ⟨_ | v, modified⟩ := s
  · exact .made rfl
  · exact .kept

theorem follows_ensureIf (create : Bool) : Follows fresh s (s.ensureIf create fresh) := by
  cases create with
  | false => exact .kept
  | true => exact follows_ensure

end

variable {s : Slot TargetTable} {name : String}

theorem follows_ensureTarget (s : Slot TargetTable) (name : String) :
    Follows ∅ s (s.ensureTarget name) := by
  simp only [ensureTarget]
  split
  · exact follows_ensure
  · exact .marked rfl

theorem follows_ensurePortals (s : Slot TargetTable) (name : String) :
    Follows ∅ s (s.ensurePortals name) := by
  simp only [ensurePortals]
  split
  · exact follows_ensureTarget s name
  · exact .marked rfl

theorem follows_ensurePortal (s : Slot TargetTable) (name address : String) :
    Follows ∅ s (s.ensurePortal name address) := by
  simp only [ensurePortal]
  split
  · exact follows_ensurePortals s name
  · exact .marked rfl

theorem modifyPortals_eq_self {f : PortalTable → PortalTable}
    (h : ∀ t, s.portals? name = some t → f t = t) : s.modifyPortals name f = s := by
  obtain ⟨value, modified⟩ := s
  cases value with
  | none => rfl
  | some table =>
    have htable : table.modify name (fun r => { r with portals := r.portals.map f }) = table := by
      refine Entries.modify_eq_self fun r hr => ?_
      have hportals : ∀ t, r.portals = some t → f t = t := by
        intro t ht
        refine h t ?_
        simp [portals?, target?, hr, ht]
      obtain ⟨target, session, authentication, portals, other⟩ := r
      cases portals with
      | none => rfl
      | some t => simp [hportals t rfl]
    exact congrArg (fun t => (⟨some t, modified⟩ : Slot TargetTable)) htable

/-- A removal that marks the slot may change it; one that does not has found nothing. -/
theorem follows_markIf {t : Slot TargetTable} {r : Removal} {found : Bool}
    (h : found = false → t = s) : Follows ∅ s (t.markIf (r.marks found)) := by
  cases hmarks : r.marks found with
  | true =>
    refine .marked ?_
    simp [markIf]
  | false =>
    have hfound : found = false := by
      simp only [Removal.marks, Bool.or_eq_false_iff] at hmarks
      exact hmarks.1
    have hkept : s.markIf false = s := by simp [markIf]
    rw [h hfound, hkept]
    exact .kept

end Slot

/-! ### Caches -/

namespace Cache

/-- What an operation may make of the caches, given the namespace that it may change. -/
inductive Follows (c : Cache) : Option Namespace → Cache → Prop
  | none : Follows c none c
  | targets {t : Slot TargetTable} :
      c.targets.Follows ∅ t → Follows c (some .targets) { c with targets := t }
  | initiator {i : Slot InitiatorRecord} :
      c.initiator.Follows {} i → Follows c (some .initiator) { c with initiator := i }
  | discovery {d : Slot Document} :
      c.discovery.Follows ∅ d → Follows c (some .discovery) { c with discovery := d }

/-- The caches with the empty value of every namespace. -/
def blank : Cache where
  targets := { value := some ∅ }
  initiator := { value := some {} }
  discovery := { value := some ∅ }

/-- A cache holds what another one held of a namespace, or the empty value of it where that one
held none. -/
def Untouched (ns : Namespace) (c c' : Cache) : Prop :=
  Agree ns c' c ∨ c.isPresent ns = false ∧ Agree ns c' blank

variable {c c' c'' : Cache} {ns : Namespace} {subject : Option Namespace}

theorem isPresent_blank (ns : Namespace) : blank.isPresent ns = true := by
  cases ns <;> rfl

theorem Untouched.refl (ns : Namespace) (c : Cache) : Untouched ns c c := .inl (.refl ns c)

theorem Untouched.trans (h : Untouched ns c c') (h' : Untouched ns c' c'') :
    Untouched ns c c'' := by
  rcases h' with hsame | ⟨habsent, hblank⟩
  · rcases h with h | ⟨habsent, hblank⟩
    · exact .inl (hsame.trans h)
    · exact .inr ⟨habsent, hsame.trans hblank⟩
  · rcases h with h | ⟨-, hmade⟩
    · exact .inr ⟨h.isPresent_eq ▸ habsent, hblank⟩
    · -- what has been made is there, and so nothing is made again
      rw [hmade.isPresent_eq, isPresent_blank] at habsent
      cases habsent

/-- A namespace that an operation is not about keeps its value and its mark. -/
theorem Follows.agree_of_ne (h : Follows c subject c') (hne : subject ≠ some ns) :
    Agree ns c' c ∧ c'.isModified ns = c.isModified ns := by
  cases h with
  | none => exact ⟨.refl ns c, rfl⟩
  | targets | initiator | discovery =>
    cases ns <;> first | exact ⟨rfl, rfl⟩ | exact absurd rfl hne

/-- No mark is taken off. -/
theorem Follows.isModified (h : Follows c subject c') (hns : c.isModified ns = true) :
    c'.isModified ns = true := by
  by_cases hne : subject = some ns
  · subst hne
    cases h with
    | targets h | initiator h | discovery h =>
      cases h with
      | kept | made => exact hns
      | marked h => exact h
  · exact ((h.agree_of_ne hne).2).trans hns

/-- What is changed without a mark is the making of the empty value. -/
theorem Follows.untouched (h : Follows c subject c') (ns : Namespace) :
    c'.isModified ns = true ∨ Untouched ns c c' := by
  by_cases hne : subject = some ns
  · subst hne
    cases h with
    | targets h | initiator h | discovery h =>
      cases h with
      | kept => exact .inr (.refl _ c)
      | made h => exact .inr (.inr ⟨congrArg Option.isSome h, rfl⟩)
      | marked h => exact .inl h
  · exact .inr (.inl (h.agree_of_ne hne).1)

end Cache

/-! ### Operations -/

namespace Store

variable {s : Store}

theorem follows_onTargets {f : Slot TargetTable → Slot TargetTable}
    (h : s.cache.targets.Follows ∅ (f s.cache.targets)) :
    s.cache.Follows (some .targets) (s.onTargets f).cache :=
  .targets h

theorem follows_removeTarget (s : Store) (name : String) :
    s.cache.Follows (some .targets) (s.removeTarget name).cache := by
  unfold removeTarget
  split
  · exact .targets .kept
  · next t ht =>
    refine follows_onTargets (Slot.follows_markIf fun hfound => ?_)
    have hvalue : s.cache.targets.value = some t := ht
    simp only [Slot.modify, hvalue, Option.map_some, Entries.erase_eq_self hfound]
    rw [← hvalue]

theorem follows_removePortal (s : Store) (name address : String) :
    s.cache.Follows (some .targets) (s.removePortal name address).cache := by
  unfold removePortal
  split
  · exact .targets .kept
  · next t ht =>
    refine follows_onTargets (Slot.follows_markIf fun hfound => ?_)
    refine Slot.modifyPortals_eq_self fun t' ht' => ?_
    obtain rfl : t = t' := Option.some.inj (ht.symm.trans ht')
    exact Entries.erase_eq_self hfound

end Store

namespace StoreOp

/-- The namespace that an operation may change. -/
def subject? : StoreOp → Option Namespace
  | .targets _ | .target .. | .portals .. | .portal .. | .removeTarget _ | .removePortal ..
  | .setSession .. | .setConnection .. | .setPortal .. | .setTarget _ | .setTargetAuth .. =>
    some .targets
  | .initiator _ | .setInitiatorName _ | .setInitiatorAlias _ | .setInitiatorAuth _ =>
    some .initiator
  | .addDiscovery _ | .clearDiscovery => some .discovery
  | _ => none

variable {op : StoreOp} {s : Store} {v : Vault} {m : Medium}

/-- Every operation but a synchronization follows the rule of marks. -/
theorem follows_run (hop : op ≠ .synchronize) :
    s.cache.Follows op.subject? (op.run s v m).store.cache := by
  cases op with
  | synchronize => exact absurd rfl hop
  | targets create => exact .targets (Slot.follows_ensureIf create)
  | target name create =>
    cases create with
    | false => exact .targets .kept
    | true => exact .targets (Slot.follows_ensureTarget _ name)
  | portals name create =>
    cases create with
    | false => exact .targets .kept
    | true => exact .targets (Slot.follows_ensurePortals _ name)
  | portal name address create =>
    cases create with
    | false => exact .targets .kept
    | true => exact .targets (Slot.follows_ensurePortal _ name address)
  | initiator create => exact .initiator (Slot.follows_ensureIf create)
  | removeTarget name => exact s.follows_removeTarget name
  | removePortal name address => exact s.follows_removePortal name address
  -- a setter marks its namespace whether it changes anything or not
  | setSession | setConnection | setPortal | setTarget | setTargetAuth =>
    exact .targets (.marked rfl)
  | setInitiatorName | setInitiatorAlias | setInitiatorAuth => exact .initiator (.marked rfl)
  | addDiscovery | clearDiscovery => exact .discovery (.marked rfl)
  | secret | setSecret =>
    simp only [store_run_secret, store_run_setSecret]
    exact .none
  | _ => exact .none

/-- No operation takes the mark off a namespace. -/
theorem isModified_run (hop : op ≠ .synchronize) {ns : Namespace} (h : s.isModified ns = true) :
    (op.run s v m).store.isModified ns = true :=
  (follows_run hop).isModified h

end StoreOp

end InitiatorStore
