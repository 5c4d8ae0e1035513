import InitiatorStore.Proofs.Store.Targets
import InitiatorStore.Store.Operation

/-!
# What look-ups that create make

Four levels lead to a portal: the table of targets, the record of a target, its list of portals, and
the record of the portal.  A look-up of a `Level` that is asked to create makes those of them that
are missing, each with nothing in it, and nothing else (`Level.lookUp_run`).

What is made is told by which levels there are before and after, and by what stands at them
(`Slot.Adds`).  A look-up makes one level after the other, and each step is told by itself: the
levels that two steps add are those of the first and those of the second (`Slot.Adds.append`).
-/

namespace InitiatorStore

/-- The record of a target without its portals. -/
def TargetRecord.bare (r : TargetRecord) : TargetRecord := { r with portals := none }

/-! ### Levels -/

/-- A level of what is kept about targets. -/
inductive Level
  | targets
  | target (name : String)
  | portals (name : String)
  | portal (name address : String)
  deriving DecidableEq

namespace Level

/-- The look-up of a level. -/
def op (create : Bool) : Level → StoreOp
  | .targets => .targets create
  | .target name => .target name create
  | .portals name => .portals name create
  | .portal name address => .portal name address create

/-- What stands at a level. -/
def answer (s : Store) : Level → StoreAnswer
  | .targets => .targets s.targets?
  | .target name => .target (s.target? name)
  | .portals name => .portals (s.portals? name)
  | .portal name address => .portal (s.portal? name address)

/-- The levels that lead to a level, itself included. -/
def path : Level → List Level
  | .targets => [.targets]
  | .target name => [.targets, .target name]
  | .portals name => [.targets, .target name, .portals name]
  | .portal name address => [.targets, .target name, .portals name, .portal name address]

/-- The name of the target that a level is one of. -/
def name? : Level → Option String
  | .targets => none
  | .target name | .portals name | .portal name _ => some name

/-- Whether the targets are marked when the level is made. -/
def marks : Level → Bool
  | .targets => false
  | .target _ | .portals _ | .portal .. => true

/-- The targets with a level, which is made where it is missing. -/
def ensure (t : Slot TargetTable) : Level → Slot TargetTable
  | .targets => t.ensure ∅
  | .target name => t.ensureTarget name
  | .portals name => t.ensurePortals name
  | .portal name address => t.ensurePortal name address

theorem self_mem_path (l : Level) : l ∈ l.path := by
  cases l <;> simp [path]

end Level

namespace Slot

/-- Whether there is something at a level. -/
def has (t : Slot TargetTable) : Level → Bool
  | .targets => t.value.isSome
  | .target name => (t.target? name).isSome
  | .portals name => (t.portals? name).isSome
  | .portal name address => (t.portal? name address).isSome

/-! ### Adding levels -/

/-- Some levels are made where they are missing, and all else is as it was. -/
structure Adds (new : List Level) (t t' : Slot TargetTable) : Prop where
  /-- The new levels are there, with those that were there before. -/
  has : ∀ l, t'.has l = true ↔ t.has l = true ∨ l ∈ new
  /-- A target has the entries that it had, or those of a fresh one. -/
  bare : ∀ name r, t'.target? name = some r → r.bare = ((t.target? name).getD {}).bare
  /-- A portal has the record that it had, or a fresh one. -/
  portal : ∀ name address q, t'.portal? name address = some q →
    q = (t.portal? name address).getD {}
  /-- The targets are marked if a level was missing that marks them. -/
  modified : t'.modified = (t.modified || new.any fun l => l.marks && !t.has l)

variable {t t' t'' : Slot TargetTable} {new new' : List Level} {l : Level} {name address : String}

/-- A level that is there need not be made. -/
theorem adds_self (h : t.has l = true) : Adds [l] t t where
  has l' := by
    rw [List.mem_singleton]
    exact ⟨.inl, fun h' => h'.elim id fun heq => heq ▸ h⟩
  bare name r hr := by rw [hr, Option.getD_some]
  portal name address q hq := by rw [hq, Option.getD_some]
  modified := by simp [h]

/-- What is missing afterwards was missing before. -/
theorem Adds.has_eq_false (h : Adds new t t') (hl : t'.has l = false) : t.has l = false := by
  rw [← Bool.not_eq_true, h.has, not_or] at hl
  exact Bool.eq_false_iff.2 hl.1

theorem Adds.append (h : Adds new t t') (h' : Adds new' t' t'') : Adds (new ++ new') t t'' where
  has l := by rw [h'.has, h.has, List.mem_append, or_assoc]
  bare name r hr := by
    rw [h'.bare name r hr]
    cases htarget : t'.target? name with
    | none =>
      have hmissing : t.has (.target name) = false :=
        h.has_eq_false (congrArg Option.isSome htarget)
      rw [Option.not_isSome_iff_eq_none.1 (Bool.eq_false_iff.1 hmissing)]
    | some r' => exact h.bare name r' htarget
  portal name address q hq := by
    rw [h'.portal name address q hq]
    cases hportal : t'.portal? name address with
    | none =>
      have hmissing : t.has (.portal name address) = false :=
        h.has_eq_false (congrArg Option.isSome hportal)
      rw [Option.not_isSome_iff_eq_none.1 (Bool.eq_false_iff.1 hmissing)]
    | some q' => exact h.portal name address q' hportal
  modified := by
    -- what the second step finds missing was missing before the first, and the other way round
    -- but for what the first has made
    rw [h'.modified, h.modified, Bool.or_assoc, List.any_append, Bool.eq_iff_iff]
    simp only [Bool.or_eq_true, List.any_eq_true, Bool.and_eq_true, Bool.not_eq_true',
      ← Bool.not_eq_true, h.has, not_or]
    constructor
    · rintro (hmodified | hnew | ⟨l, hl, hmarks, hmissing, -⟩)
      · exact .inl hmodified
      · exact .inr (.inl hnew)
      · exact .inr (.inr ⟨l, hl, hmarks, hmissing⟩)
    · rintro (hmodified | hnew | ⟨l, hl, hmarks, hmissing⟩)
      · exact .inl hmodified
      · exact .inr (.inl hnew)
      · by_cases hmade : l ∈ new
        · exact .inr (.inl ⟨l, hmade, hmarks, hmissing⟩)
        · exact .inr (.inr ⟨l, hl, hmarks, hmissing, hmade⟩)

/-! ### One level -/

theorem adds_ensure (t : Slot TargetTable) : Adds [.targets] t (t.ensure ∅) := by
  obtain ⟨_ | table, modified⟩ := t
  · refine ⟨fun l => ?_, nofun, nofun, (Bool.or_false modified).symm⟩
    cases l <;> simp [has, ensure, target?, portals?, portal?]
  · exact adds_self rfl

theorem has_targets (h : (t.target? name).isSome = true) : t.has .targets = true := by
  obtain ⟨r, hr⟩ := Option.isSome_iff_exists.1 h
  obtain ⟨table, hvalue, -⟩ := Option.bind_eq_some_iff.1 hr
  exact Option.isSome_iff_exists.2 ⟨table, hvalue⟩

theorem target?_modifyTarget_of_some {r : TargetRecord} (h : t.target? name = some r)
    (f : TargetRecord → TargetRecord) (name' : String) :
    (t.modifyTarget name f).target? name' =
      if name' = name then some (f r) else t.target? name' := by
  rw [target?_modifyTarget]
  split
  · next hname => rw [hname, h, Option.map_some]
  · rfl

/-- A level of a target is added by a change of the record of the target that adds it there. -/
theorem adds_of_target? {r : TargetRecord} (hname : l.name? = some name)
    (hmissing : t.has l = false) (htable : t.has .targets = true)
    (htable' : t'.has .targets = true) (hmodified : t'.modified = true)
    (htarget : ∀ name', t'.target? name' = if name' = name then some r else t.target? name')
    (hlevels : ∀ l', l'.name? = some name → (t'.has l' = true ↔ t.has l' = true ∨ l' = l))
    (hbare : r.bare = ((t.target? name).getD {}).bare)
    (hportal : ∀ address q, r.portal? address = some q → q = (t.portal? name address).getD {}) :
    Adds [l] t t' where
  has l' := by
    rw [List.mem_singleton]
    by_cases hsame : l'.name? = some name
    · exact hlevels l' hsame
    · have hne : l' ≠ l := fun heq => hsame (heq ▸ hname)
      rw [or_iff_left hne]
      cases l' with
      | targets => exact iff_of_true htable' htable
      | target name' | portals name' | portal name' address =>
        have hother : name' ≠ name := fun heq => hsame (congrArg some heq)
        simp only [Slot.has, portal?, portals?, htarget, if_neg hother]
  bare name' r' hr := by
    rw [htarget] at hr
    split at hr
    · next hname' =>
      obtain rfl := Option.some.inj hr
      rw [hname', hbare]
    · rw [hr, Option.getD_some]
  portal name' address q hq := by
    rw [portal?_eq, htarget] at hq
    split at hq
    · next hname' =>
      rw [hname']
      exact hportal address q hq
    · rw [portal?_eq, hq, Option.getD_some]
  modified := by
    have hmarks : l.marks = true := by
      cases l with
      | targets => cases hname
      | target | portals | portal => rfl
    simp [hmodified, hmarks, hmissing]

theorem adds_insert_target (htable : t.has .targets = true) (hmissing : t.target? name = none) :
    Adds [.target name] t (t.modify (·.insert name {})).mark := by
  obtain ⟨table, hvalue⟩ := Option.isSome_iff_exists.1 htable
  have htarget : ∀ name', (t.modify (·.insert name {})).mark.target? name' =
      if name' = name then some {} else t.target? name' := by
    intro name'
    simp only [target?, mark, modify, hvalue, Option.map_some, Option.bind_some,
      Entries.get?_insert]
  refine adds_of_target? rfl ?_ htable ?_ rfl htarget (fun l hl => ?_) ?_ fun address q hq => ?_
  · exact congrArg Option.isSome hmissing
  · exact (Option.isSome_map ..).trans htable
  · cases l with
    | targets => cases hl
    | target name' | portals name' | portal name' address =>
      obtain rfl := Option.some.inj hl
      simp [has, portal?, portals?, htarget, hmissing]
  · rw [hmissing, Option.getD_none]
  · cases hq

theorem adds_portals {r : TargetRecord} (hrecord : t.target? name = some r)
    (hmissing : r.portals = none) :
    Adds [.portals name] t
      (t.modifyTarget name fun r => { r with portals := some ∅ }).mark := by
  have htarget : ∀ name',
      (t.modifyTarget name fun r => { r with portals := some ∅ }).mark.target? name' =
        if name' = name then some { r with portals := some ∅ } else t.target? name' :=
    target?_modifyTarget_of_some hrecord _
  have htable : t.has .targets = true := has_targets (Option.isSome_iff_exists.2 ⟨r, hrecord⟩)
  refine adds_of_target? rfl ?_ htable ?_ rfl htarget (fun l hl => ?_) ?_ fun address q hq => ?_
  · simp [has, portals?, hrecord, hmissing]
  · exact (Option.isSome_map ..).trans htable
  · cases l with
    | targets => cases hl
    | target name' | portals name' | portal name' address =>
      obtain rfl := Option.some.inj hl
      simp [has, portal?, portals?, htarget, hrecord, hmissing]
  · rw [hrecord]
    rfl
  · cases hq

theorem adds_insert_portal {r : TargetRecord} {portals : PortalTable}
    (hrecord : t.target? name = some r) (hportals : r.portals = some portals)
    (hmissing : portals.get? address = none) :
    Adds [.portal name address] t (t.modifyPortals name (·.insert address {})).mark := by
  have htarget : ∀ name', (t.modifyPortals name (·.insert address {})).mark.target? name' =
      if name' = name then some { r with portals := r.portals.map (·.insert address {}) }
      else t.target? name' :=
    target?_modifyTarget_of_some hrecord _
  have htable : t.has .targets = true := has_targets (Option.isSome_iff_exists.2 ⟨r, hrecord⟩)
  refine adds_of_target? rfl ?_ htable ?_ rfl htarget (fun l hl => ?_) ?_ fun address' q hq => ?_
  · simp [has, portal?, portals?, hrecord, hportals, hmissing]
  · exact (Option.isSome_map ..).trans htable
  · cases l with
    | targets => cases hl
    | target name' | portals name' =>
      obtain rfl := Option.some.inj hl
      simp [has, portals?, htarget, hrecord, hportals]
    | portal name' address' =>
      obtain rfl := Option.some.inj hl
      by_cases haddress : address' = address <;>
        simp [has, portal?, portals?, htarget, hrecord, hportals, haddress]
  · rw [hrecord]
    rfl
  · by_cases haddress : address' = address <;>
      simp_all [portal?, portals?, TargetRecord.portal?]

/-! ### Paths -/

theorem Adds.has_of_mem (h : Adds new t t') (hl : l ∈ new) : t'.has l = true :=
  (h.has l).2 (.inr hl)

theorem adds_ensureTarget (t : Slot TargetTable) (name : String) :
    Adds (Level.target name).path t (t.ensureTarget name) := by
  have htable := adds_ensure t
  have hstep : Adds [.target name] (t.ensure ∅) (t.ensureTarget name) := by
    simp only [ensureTarget]
    split
    · next r hr => exact adds_self (Option.isSome_iff_exists.2 ⟨r, hr⟩)
    · next hnone => exact adds_insert_target (htable.has_of_mem (List.mem_singleton_self _)) hnone
  exact htable.append hstep

theorem adds_ensurePortals (t : Slot TargetTable) (name : String) :
    Adds (Level.portals name).path t (t.ensurePortals name) := by
  have hrecord := t.adds_ensureTarget name
  have hstep : Adds [.portals name] (t.ensureTarget name) (t.ensurePortals name) := by
    simp only [ensurePortals]
    split
    · next portals hportals => exact adds_self (Option.isSome_iff_exists.2 ⟨portals, hportals⟩)
    · next hnone =>
      obtain ⟨r, hr⟩ := Option.isSome_iff_exists.1 (hrecord.has_of_mem (Level.self_mem_path _))
      refine adds_portals hr ?_
      rwa [portals?, hr] at hnone
  exact hrecord.append hstep

theorem adds_ensurePortal (t : Slot TargetTable) (name address : String) :
    Adds (Level.portal name address).path t (t.ensurePortal name address) := by
  have hlist := t.adds_ensurePortals name
  have hstep : Adds [.portal name address] (t.ensurePortals name)
      (t.ensurePortal name address) := by
    simp only [ensurePortal]
    split
    · next q hq => exact adds_self (Option.isSome_iff_exists.2 ⟨q, hq⟩)
    · next hnone =>
      obtain ⟨portals, hportals⟩ :=
        Option.isSome_iff_exists.1 (hlist.has_of_mem (Level.self_mem_path _))
      obtain ⟨r, hr, hrecord⟩ := Option.bind_eq_some_iff.1 hportals
      refine adds_insert_portal hr hrecord ?_
      rwa [portal?, hportals] at hnone
  exact hlist.append hstep

/-! ### Paths that are there -/

theorem ensure_of_isSome (h : t.value.isSome = true) : t.ensure ∅ = t := by
  obtain ⟨_ | table, modified⟩ := t
  · cases h
  · rfl

theorem ensureTarget_of_isSome (h : (t.target? name).isSome = true) :
    t.ensureTarget name = t := by
  obtain ⟨r, hr⟩ := Option.isSome_iff_exists.1 h
  simp only [ensureTarget, ensure_of_isSome (has_targets h), hr]

theorem ensurePortals_of_isSome (h : (t.portals? name).isSome = true) :
    t.ensurePortals name = t := by
  obtain ⟨portals, hportals⟩ := Option.isSome_iff_exists.1 h
  obtain ⟨r, hr, -⟩ := Option.bind_eq_some_iff.1 hportals
  simp only [ensurePortals, ensureTarget_of_isSome (Option.isSome_iff_exists.2 ⟨r, hr⟩), hportals]

theorem ensurePortal_of_isSome (h : (t.portal? name address).isSome = true) :
    t.ensurePortal name address = t := by
  obtain ⟨q, hq⟩ := Option.isSome_iff_exists.1 h
  obtain ⟨portals, hportals, -⟩ := Option.bind_eq_some_iff.1 hq
  simp only [ensurePortal, ensurePortals_of_isSome (Option.isSome_iff_exists.2 ⟨portals, hportals⟩),
    hq]

end Slot

/-! ### Look-ups -/

namespace Level

variable {t : Slot TargetTable}

/-- What is missing on the way to a level is added, and the level itself. -/
theorem adds_ensure (l : Level) (t : Slot TargetTable) : Slot.Adds l.path t (l.ensure t) := by
  cases l with
  | targets => exact t.adds_ensure
  | target name => exact t.adds_ensureTarget name
  | portals name => exact t.adds_ensurePortals name
  | portal name address => exact t.adds_ensurePortal name address

/-- A level that is there is left as it is, with all that leads to it. -/
theorem ensure_of_has {l : Level} (h : t.has l = true) : l.ensure t = t := by
  cases l with
  | targets => exact Slot.ensure_of_isSome h
  | target name => exact Slot.ensureTarget_of_isSome h
  | portals name => exact Slot.ensurePortals_of_isSome h
  | portal name address => exact Slot.ensurePortal_of_isSome h

theorem has_ensure (l : Level) (t : Slot TargetTable) : (l.ensure t).has l = true :=
  (l.adds_ensure t).has_of_mem l.self_mem_path

/-- What leads to a level that is there is there. -/
theorem has_of_mem_path {l l' : Level} (h : t.has l = true) (hl : l' ∈ l.path) :
    t.has l' = true := by
  have hadded := (l.adds_ensure t).has_of_mem hl
  rwa [ensure_of_has h] at hadded

/-- What a look-up of a level comes to that is asked to create. -/
structure LookedUp (l : Level) (s : Store) (v : Vault) (m : Medium) (t : Turn) : Prop where
  /-- The answer is what stands at the level then. -/
  answer : t.answer = l.answer t.store
  /-- There is something at the level. -/
  found : t.store.cache.targets.has l = true
  /-- The levels on the way that were missing have been made. -/
  adds : Slot.Adds l.path s.cache.targets t.store.cache.targets
  /-- Of the store only the targets have changed. -/
  store : t.store = s.onTargets fun _ => t.store.cache.targets
  vault : t.vault = v
  medium : t.medium = m
  /-- The same look-up again comes to the same. -/
  again : (l.op true).run t.store t.vault t.medium = t

variable (l : Level) (s : Store) (v : Vault) (m : Medium)

theorem run_find : (l.op false).run s v m = ⟨l.answer s, s, v, m, []⟩ := by
  cases l <;> rfl

theorem run_create : (l.op true).run s v m =
    ⟨l.answer (s.onTargets l.ensure), s.onTargets l.ensure, v, m, []⟩ := by
  cases l <;> rfl

theorem lookedUp_run : l.LookedUp s v m ((l.op true).run s v m) := by
  have hstore : (s.onTargets l.ensure).onTargets l.ensure = s.onTargets l.ensure :=
    congrArg (fun t => s.onTargets fun _ => t) (ensure_of_has (l.has_ensure s.cache.targets))
  rw [run_create]
  exact {
    answer := rfl
    found := l.has_ensure _
    adds := l.adds_ensure _
    store := rfl
    vault := rfl
    medium := rfl
    again := by rw [run_create, hstore] }

/-- A look-up that is not asked to create finds what is there and changes nothing.  One that is
asked to adds what is missing, with nothing in it, and marks the targets if that is more than the
table itself.  Making the table of targets or the record of the initiator marks nothing. -/
theorem lookUp_run : (l.op false).run s v m = ⟨l.answer s, s, v, m, []⟩ ∧
    l.LookedUp s v m ((l.op true).run s v m) ∧
    ∀ create ns, ((StoreOp.targets create).run s v m).store.isModified ns = s.isModified ns ∧
      ((StoreOp.initiator create).run s v m).store.isModified ns = s.isModified ns := by
  refine ⟨l.run_find s v m, l.lookedUp_run s v m, fun create ns => ?_⟩
  cases create <;> cases ns <;> exact ⟨rfl, rfl⟩

end Level

end InitiatorStore
