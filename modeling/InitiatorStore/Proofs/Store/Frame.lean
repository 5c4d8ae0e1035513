import InitiatorStore.Proofs.Store.Likeness
import InitiatorStore.Proofs.Store.Settings
import InitiatorStore.Proofs.Store.Vault

/-!
# What setters show in

A setter leaves all of a store but its leaf alone, and so a question about anything else is answered
as before (`Setting.answer_of_not_shows`).  What the answers do tell of a setting is the leaf, which
reads back (`Setting.answer_getter`), the target and the portal that were made to hold it, which are
there and enumerated, and the credentials that were stored with it, which are also those of the
initiator if it has the name of the target.  `Setting.frame_run` puts this together.

That a question is not about the leaf is used in one way throughout: what is looked up in a record
stays if the change of the record leaves it, and a fresh record has nothing that is looked up
(`Setting.bind_target?_set`).
-/

namespace InitiatorStore

/-! ### Questions -/

/-- Whether an operation only asks: it is a getter, or a look-up that makes nothing. -/
def StoreOp.onlyAsks : StoreOp → Bool
  | .targets create | .target _ create | .portals _ create | .portal _ _ create
  | .initiator create => !create
  | .session _ | .connection .. | .portalData .. | .targetData _ | .targetNames
  | .portalAddresses _ | .containsTarget _ | .containsPortal .. | .targetAuth _ | .initiatorAuth
  | .secret _ | .initiatorName | .initiatorAlias | .discovery | .removal => true
  | _ => false

/-- What is answered when credentials are asked for. -/
def secretAnswer : Except SecretError Credentials → StoreAnswer
  | .ok c => .credentials c
  | .error e => .secretFailed e

theorem StoreOp.answer_secret (node : String) (s : Store) (v : Vault) (m : Medium) :
    ((StoreOp.secret node).run s v m).answer = secretAnswer (v.read node) := by
  simp only [run]
  cases v.read node <;> rfl

/-! ### Enumerations -/

/-- Two maps with the same keys are alike if nothing is asked of the values. -/
theorem Entries.alike_of_contains_eq {α : Type} {m n : Keyed α}
    (h : ∀ k, m.contains k = n.contains k) : Alike (fun _ _ => True) m n := by
  intro k
  have hk : (m.get? k).isSome = (n.get? k).isSome := h k
  generalize m.get? k = a, n.get? k = b at hk ⊢
  cases a with
  | none =>
    cases b with
    | none => exact .none
    | some w => cases hk
  | some v =>
    cases b with
    | none => cases hk
    | some w => exact .some trivial

namespace Store

variable {α : Type} {s s' : Store} {name address : String}

theorem bind_keys?_eq (o : Option (Keyed α)) : o.bind keys? = keys? (o.getD ∅) := by
  cases o <;> rfl

theorem mem_bind_keys? {o : Option (Keyed α)} {k : String} :
    k ∈ (o.bind keys?).getD [] ↔ (o.bind (·.get? k)).isSome = true := by
  rw [bind_keys?_eq, Entries.bind_get?, keys?]
  refine Iff.trans ?_ Entries.mem_keys
  split
  · next hempty =>
    rw [Entries.eq_empty_of_isEmpty hempty]
    rfl
  · rfl

/-- What is enumerated depends on what there is. -/
theorem bind_keys?_congr {o o' : Option (Keyed α)}
    (h : ∀ k, (o.bind (·.get? k)).isSome = (o'.bind (·.get? k)).isSome) :
    o.bind keys? = o'.bind keys? := by
  have halike : Entries.Alike (fun _ _ => True) (o.getD ∅) (o'.getD ∅) := by
    refine Entries.alike_of_contains_eq fun k => ?_
    have hk := h k
    rwa [Entries.bind_get?, Entries.bind_get?] at hk
  rw [bind_keys?_eq, bind_keys?_eq, keys?, keys?, halike.isEmpty_eq, halike.keys_eq]

theorem mem_targetNames? : name ∈ s.targetNames?.getD [] ↔ s.containsTarget name = true :=
  mem_bind_keys?

theorem mem_portalAddresses? :
    address ∈ (s.portalAddresses? name).getD [] ↔ s.containsPortal name address = true :=
  mem_bind_keys?

theorem targetNames?_congr (h : ∀ name, s'.containsTarget name = s.containsTarget name) :
    s'.targetNames? = s.targetNames? :=
  bind_keys?_congr h

theorem portalAddresses?_congr
    (h : ∀ address, s'.containsPortal name address = s.containsPortal name address) :
    s'.portalAddresses? name = s.portalAddresses? name :=
  bind_keys?_congr h

end Store

/-! ### Leaves that are not set -/

namespace Setting

variable (x : Setting) (s : Store) {name address : String}

/-- What a fresh record does not have is looked up in it in vain. -/
theorem bind_eq_getD {α β : Type} {fresh : α} {F : α → Option β} (hfresh : F fresh = none)
    (r : Option α) : r.bind F = F (r.getD fresh) := by
  cases r with
  | none => exact hfresh.symm
  | some r => rfl

/-- What is looked up in the record of a target is as before if the setting leaves it alone. -/
theorem bind_target?_set {β : Type} {F : TargetRecord → Option β} (hfresh : F {} = none)
    (hF : name = x.name → ∀ r, F (x.change r) = F r) :
    ((x.set s).target? name).bind F = (s.target? name).bind F := by
  rw [target?_set]
  split
  · next hname =>
    rw [hname, Option.bind_some, hF hname, bind_eq_getD hfresh]
  · rfl

/-- What is looked up in the record of a portal is as before if a change leaves it alone. -/
theorem bind_portal?_onPortal {β : Type} {F : PortalRecord → Option β} (hfresh : F {} = none)
    {f : PortalRecord → PortalRecord} {address' : String}
    (hF : address = address' → ∀ q, F (f q) = F q) (r : TargetRecord) :
    ((r.onPortal address' f).portal? address).bind F = (r.portal? address).bind F := by
  rw [TargetRecord.portal?_onPortal]
  split
  · next haddress =>
    rw [haddress, Option.bind_some, hF haddress, bind_eq_getD hfresh]
  · rfl

theorem session?_set (h : x.getter ≠ .session name) :
    (x.set s).session? name = s.session? name := by
  refine x.bind_target?_set s rfl fun hname r => ?_
  cases x with
  | session name' c => exact absurd (congrArg StoreOp.session hname.symm) h
  | target | auth | portal | connection => rfl

theorem targetData?_set (h : x.getter ≠ .targetData name) :
    (x.set s).targetData? name = s.targetData? name := by
  refine x.bind_target?_set s rfl fun hname r => ?_
  cases x with
  | target t => exact absurd (congrArg StoreOp.targetData hname.symm) h
  | session | auth | portal | connection => rfl

theorem portals?_set (h : name = x.name → x.address? = none) :
    (x.set s).portals? name = s.portals? name := by
  refine x.bind_target?_set s rfl fun hname r => ?_
  cases x with
  | target | session | auth => rfl
  | portal | connection => cases h hname

theorem portal?_set (h : ¬ (name = x.name ∧ x.address? = some address)) :
    (x.set s).portal? name address = s.portal? name address := by
  rw [Store.portal?_eq, Store.portal?_eq]
  refine x.bind_target?_set s rfl fun hname r => ?_
  cases x with
  | target | session | auth => rfl
  | portal | connection =>
    refine (r.portal?_onPortal ..).trans (if_neg fun haddress => h ⟨hname, ?_⟩)
    exact congrArg some haddress.symm

theorem connection?_set (h : x.getter ≠ .connection name address) :
    (x.set s).connection? name address = s.connection? name address := by
  rw [Store.connection?, Store.connection?, Store.portal?_eq, Store.portal?_eq, Option.bind_assoc,
    Option.bind_assoc]
  refine x.bind_target?_set s rfl fun hname r => ?_
  cases x with
  | target | session | auth => rfl
  | portal name' p =>
    refine bind_portal?_onPortal ?_ (fun _ _ => ?_) r <;> rfl
  | connection name' address' c =>
    refine bind_portal?_onPortal rfl (fun haddress => absurd ?_ h) r
    rw [hname, haddress]
    rfl

theorem portalData?_set (h : x.getter ≠ .portalData name address) :
    (x.set s).portalData? name address = s.portalData? name address := by
  rw [Store.portalData?, Store.portalData?, Store.portal?_eq, Store.portal?_eq, Option.bind_assoc,
    Option.bind_assoc]
  refine x.bind_target?_set s rfl fun hname r => ?_
  cases x with
  | target | session | auth => rfl
  | portal name' p =>
    refine bind_portal?_onPortal rfl (fun haddress => absurd ?_ h) r
    rw [hname, haddress]
    rfl
  | connection name' address' c =>
    refine bind_portal?_onPortal ?_ (fun _ _ => ?_) r <;> rfl

/-! ### What there is -/

theorem containsTarget_set : (x.set s).containsTarget name = true ↔
    name = x.name ∨ s.containsTarget name = true := by
  rw [Store.containsTarget, target?_set]
  split
  · next hname => exact iff_of_true rfl (.inl hname)
  · next hname => exact (or_iff_right hname).symm

theorem containsPortal_set : (x.set s).containsPortal name address = true ↔
    (name = x.name ∧ x.address? = some address) ∨ s.containsPortal name address = true := by
  by_cases h : name = x.name ∧ x.address? = some address
  · refine iff_of_true ?_ (.inl h)
    obtain ⟨rfl, haddress⟩ := h
    have htarget := x.target?_set_self s
    cases x with
    | target | session | auth => cases haddress
    | portal | connection =>
      obtain rfl := Option.some.inj haddress
      exact congrArg Option.isSome (Store.portal?_of_target? htarget)
  · rw [Store.containsPortal, x.portal?_set s h]
    exact (or_iff_right h).symm

theorem containsTarget_set_of_not (h : ¬ (name = x.name ∧ s.containsTarget name = false)) :
    (x.set s).containsTarget name = s.containsTarget name := by
  rw [Bool.eq_iff_iff, containsTarget_set]
  exact or_iff_right_of_imp fun hname => eq_true_of_ne_false fun hmissing => h ⟨hname, hmissing⟩

theorem containsPortal_set_of_not
    (h : ¬ (name = x.name ∧ x.address? = some address ∧ s.containsPortal name address = false)) :
    (x.set s).containsPortal name address = s.containsPortal name address := by
  rw [Bool.eq_iff_iff, containsPortal_set]
  exact or_iff_right_of_imp fun ⟨hname, haddress⟩ =>
    eq_true_of_ne_false fun hmissing => h ⟨hname, haddress, hmissing⟩

/-! ### Authentication -/

variable (v : Vault) {node : String} {c : Credentials}

/-- The credentials that a vault takes from a setting, if there are any and it does. -/
def stored? (v : Vault) (x : Setting) : Option Credentials :=
  if v.writeError? x.name = none then x.credentials? else none

theorem keep_of_stored?_eq_none (h : x.stored? v = none) : x.keep v = v := by
  rw [keep]
  cases hcredentials : x.credentials? with
  | none => rfl
  | some c =>
    rw [stored?, hcredentials, ite_eq_right_iff] at h
    cases herror : v.writeError? x.name with
    | none => cases h herror
    | some e => exact Vault.write_of_writeError? herror c

theorem read_keep_self (h : x.stored? v = some c) : (x.keep v).read x.name = .ok c := by
  obtain ⟨herror, hcredentials⟩ := Option.ite_none_right_eq_some.1 h
  rw [keep, hcredentials]
  exact Vault.read_write_self herror c

theorem read_keep_of_ne (h : node ≠ x.name) : (x.keep v).read node = v.read node := by
  rw [keep]
  cases x.credentials? with
  | none => rfl
  | some c => exact Vault.read_write_of_ne h v c

theorem read_keep_of_not (h : ¬ (node = x.name ∧ (x.stored? v).isSome = true)) :
    (x.keep v).read node = v.read node := by
  cases hstored : x.stored? v with
  | none => rw [x.keep_of_stored?_eq_none v hstored]
  | some c =>
    exact x.read_keep_of_ne v fun hname => h ⟨hname, congrArg Option.isSome hstored⟩

theorem targetAuth?_set (hgetter : x.getter ≠ .targetAuth name)
    (hthere : ¬ (name = x.name ∧ s.containsTarget name = false)) :
    (x.set s).targetAuth? (x.keep v) name = s.targetAuth? v name := by
  rw [Store.targetAuth?, Store.targetAuth?, target?_set]
  split
  · next hname =>
    obtain ⟨hcredentials, htag⟩ :
        x.credentials? = none ∧ ∀ r, (x.change r).authMethod? = r.authMethod? := by
      cases x with
      | auth name' a => exact absurd (congrArg StoreOp.targetAuth hname.symm) hgetter
      | target | session | portal | connection => exact ⟨rfl, fun _ => rfl⟩
    have hkeep : x.keep v = v := by rw [keep, hcredentials]
    have hsome : (s.target? x.name).isSome = true :=
      eq_true_of_ne_false fun h => hthere ⟨hname, hname ▸ h⟩
    obtain ⟨r, hr⟩ := Option.isSome_iff_exists.1 hsome
    rw [hkeep, hname, hr, Option.map_some, Option.map_some, htag]
    rfl
  · next hname =>
    exact congrArg (Option.map · _) (funext fun r => Vault.auth_congr (x.read_keep_of_ne v hname) _)

/-- A target that is made has no authentication. -/
theorem targetAuth?_set_of_fresh (hgetter : x.getter ≠ .targetAuth x.name)
    (hmissing : s.containsTarget x.name = false) (v' : Vault) :
    (x.set s).targetAuth? v' x.name = some .none := by
  have hnone : s.target? x.name = none := by simpa [Store.containsTarget] using hmissing
  have htag : (x.change {}).authMethod? = none := by
    cases x with
    | auth name a => exact absurd rfl hgetter
    | target | session | portal | connection => rfl
  rw [Store.targetAuth?, target?_set_self, hnone, Option.getD_none, Option.map_some, htag]
  rfl

theorem initiator?_set : (x.set s).initiator? = s.initiator? := by
  rw [set_eq]
  rfl

theorem initiatorAuth?_set
    (h : ¬ ((x.stored? v).isSome = true ∧ s.initiatorName? = some x.name)) :
    (x.set s).initiatorAuth? (x.keep v) = s.initiatorAuth? v := by
  rw [Store.initiatorAuth?, Store.initiatorAuth?, initiator?_set]
  cases hr : s.initiator? with
  | none => rfl
  | some r =>
    refine congrArg some (Vault.auth_congr ?_ _)
    refine x.read_keep_of_not v fun ⟨hname, hstored⟩ => h ⟨hstored, ?_⟩
    rw [Store.initiatorName?, hr, Option.map_some, hname]

/-- Credentials that are stored are those of the initiator if the target has its name. -/
theorem initiatorAuth?_set_of_name {r : InitiatorRecord} (hc : x.stored? v = some c)
    (hr : s.initiator? = some r) (hname : r.name = x.name) :
    (x.set s).initiatorAuth? (x.keep v) =
      some (if r.authMethod? = some .chap then .chap c else .none) := by
  rw [Store.initiatorAuth?, initiator?_set, hr, Option.map_some, hname, Vault.auth,
    x.read_keep_self v hc]

/-! ### Answers -/

/-- The getter of the leaf answers as the leaf reads back, as long as the vault takes what
credentials there are. -/
theorem answer_getter (m : Medium) (h : x.credentials? = none ∨ v.writeError? x.name = none) :
    (x.getter.run (x.set s) (x.keep v) m).answer = x.readBack := by
  cases x with
  | target t => exact congrArg StoreAnswer.targetData (s.targetData?_setTarget t)
  | session name c => exact congrArg StoreAnswer.session (s.session?_setSession name c)
  | portal name p => exact congrArg StoreAnswer.portalData (s.portalData?_setPortal name p)
  | connection name address c =>
    refine congrArg StoreAnswer.connection ((s.connection?_setConnection name address c).trans ?_)
    exact (Connection.ofNode?_toNode c).symm
  | auth name a =>
    have htarget := (Setting.auth name a).target?_set_self s
    refine congrArg StoreAnswer.auth ((congrArg (Option.map _) htarget).trans (congrArg some ?_))
    cases a with
    | none => rfl
    | chap c =>
      have herror : v.writeError? name = none := h.resolve_left nofun
      exact Vault.auth_eq_chap.2 ⟨rfl, Vault.read_write_self herror c⟩

/-- Whether a setting may show in the answer to a question: one for the leaf or for what the leaf is
part of, one for the targets and portals that there are if the setting makes one, or one for
credentials if the setting stores some. -/
def Shows (x : Setting) (s : Store) (v : Vault) (op : StoreOp) : Prop :=
  op = x.getter ∨
    match op with
    | .targets _ => True
    | .target name _ => name = x.name
    | .portals name _ => name = x.name ∧ x.address? ≠ none
    | .portal name address _ => name = x.name ∧ x.address? = some address
    | .targetNames => s.containsTarget x.name = false
    | .containsTarget name | .targetAuth name => name = x.name ∧ s.containsTarget name = false
    | .portalAddresses name => name = x.name ∧
      ∃ address, x.address? = some address ∧ s.containsPortal name address = false
    | .containsPortal name address =>
      name = x.name ∧ x.address? = some address ∧ s.containsPortal name address = false
    | .secret node => node = x.name ∧ (x.stored? v).isSome = true
    | .initiatorAuth => (x.stored? v).isSome = true ∧ s.initiatorName? = some x.name
    | _ => False

theorem answer_of_not_shows (m : Medium) {op : StoreOp} (hop : op.onlyAsks = true)
    (h : ¬ x.Shows s v op) :
    (op.run (x.set s) (x.keep v) m).answer = (op.run s v m).answer := by
  obtain ⟨hgetter, h⟩ := not_or.1 h
  cases op with
  | targets => exact absurd trivial h
  | target name create =>
    obtain rfl : create = false := by simpa [StoreOp.onlyAsks] using hop
    exact congrArg StoreAnswer.target ((x.target?_set s name).trans (if_neg h))
  | portals name create =>
    obtain rfl : create = false := by simpa [StoreOp.onlyAsks] using hop
    refine congrArg StoreAnswer.portals (x.portals?_set s fun hname => ?_)
    exact Decidable.byContradiction fun haddress => h ⟨hname, haddress⟩
  | portal name address create =>
    obtain rfl : create = false := by simpa [StoreOp.onlyAsks] using hop
    exact congrArg StoreAnswer.portal (x.portal?_set s h)
  | initiator create =>
    obtain rfl : create = false := by simpa [StoreOp.onlyAsks] using hop
    exact congrArg StoreAnswer.initiator (x.initiator?_set s)
  | session => exact congrArg StoreAnswer.session (x.session?_set s (Ne.symm hgetter))
  | connection => exact congrArg StoreAnswer.connection (x.connection?_set s (Ne.symm hgetter))
  | portalData => exact congrArg StoreAnswer.portalData (x.portalData?_set s (Ne.symm hgetter))
  | targetData => exact congrArg StoreAnswer.targetData (x.targetData?_set s (Ne.symm hgetter))
  | targetNames =>
    refine congrArg StoreAnswer.texts (Store.targetNames?_congr fun name => ?_)
    exact x.containsTarget_set_of_not s fun ⟨hname, hmissing⟩ => h (hname ▸ hmissing)
  | portalAddresses name =>
    refine congrArg StoreAnswer.texts (Store.portalAddresses?_congr fun address => ?_)
    exact x.containsPortal_set_of_not s fun ⟨hname, hmissing⟩ => h ⟨hname, address, hmissing⟩
  | containsTarget => exact congrArg StoreAnswer.flag (x.containsTarget_set_of_not s h)
  | containsPortal => exact congrArg StoreAnswer.flag (x.containsPortal_set_of_not s h)
  | targetAuth => exact congrArg StoreAnswer.auth (x.targetAuth?_set s v (Ne.symm hgetter) h)
  | initiatorAuth => exact congrArg StoreAnswer.auth (x.initiatorAuth?_set s v h)
  | secret node => rw [StoreOp.answer_secret, StoreOp.answer_secret, x.read_keep_of_not v h]
  | initiatorName =>
    exact congrArg (fun i => StoreAnswer.text (i.map (·.name))) (x.initiator?_set s)
  | initiatorAlias =>
    exact congrArg (fun i => StoreAnswer.text (i.map (·.aliasName))) (x.initiator?_set s)
  | discovery | removal =>
    rw [set_eq]
    rfl
  | _ => cases hop

/-! ### Settings as operations -/

/-- What a setting leaves of a store and its vault, and what it shows in. -/
structure Frame (x : Setting) (s : Store) (v : Vault) (m : Medium) (t : Turn) : Prop where
  /-- The record of the target is the one that was there, or a fresh one, but for the leaf; the
  targets are marked, and everything else is as it was. -/
  store : t.store = s.onTargets x.slot
  vault : t.vault = x.keep v
  medium : t.medium = m
  /-- The leaf reads back, as long as the vault takes what credentials there are. -/
  getter : x.credentials? = none ∨ v.writeError? x.name = none →
    (x.getter.run t.store t.vault t.medium).answer = x.readBack
  /-- Everything that the setting does not show in is answered as before. -/
  others : ∀ op, op.onlyAsks = true → ¬ x.Shows s v op →
    (op.run t.store t.vault t.medium).answer = (op.run s v m).answer
  /-- The target is there now, with the others. -/
  targets : ∀ name, t.store.containsTarget name = true ↔
    name = x.name ∨ s.containsTarget name = true
  targetNames : ∀ name, name ∈ t.store.targetNames?.getD [] ↔
    name = x.name ∨ name ∈ s.targetNames?.getD []
  /-- The portal, if the leaf is one of a portal, is there now, with the others. -/
  portals : ∀ name address, t.store.containsPortal name address = true ↔
    (name = x.name ∧ x.address? = some address) ∨ s.containsPortal name address = true
  portalAddresses : ∀ name address, address ∈ (t.store.portalAddresses? name).getD [] ↔
    (name = x.name ∧ x.address? = some address) ∨ address ∈ (s.portalAddresses? name).getD []
  /-- A target that is made, and not by setting its authentication, has none. -/
  fresh : s.containsTarget x.name = false → x.getter ≠ .targetAuth x.name →
    t.store.targetAuth? t.vault x.name = some .none
  /-- Credentials that are stored are read from the vault. -/
  secret : ∀ c, x.stored? v = some c → t.vault.read x.name = .ok c
  /-- They are those of the initiator, too, if it has the name of the target. -/
  initiator : ∀ c r, x.stored? v = some c → s.initiator? = some r → r.name = x.name →
    t.store.initiatorAuth? t.vault = some (if r.authMethod? = some .chap then .chap c else .none)

/-- A setter changes its leaf and nothing else, and shows in no answer but those that tell of the
leaf, of what is made to hold it, and of the credentials that are stored with it. -/
theorem frame_run (m : Medium) : x.Frame s v m (x.op.run s v m) := by
  have hrun := And.intro (x.store_run s v m) (And.intro (x.vault_run s v m) (x.medium_run s v m))
  generalize x.op.run s v m = t at hrun
  obtain ⟨answer, store, vault, medium, notices⟩ := t
  obtain ⟨rfl, rfl, rfl⟩ := hrun
  exact {
    store := x.set_eq s
    vault := rfl
    medium := rfl
    getter := x.answer_getter s v _
    others := fun op hop => x.answer_of_not_shows s v _ hop
    targets := fun name => x.containsTarget_set s
    targetNames := fun name => by
      rw [Store.mem_targetNames?, Store.mem_targetNames?]
      exact x.containsTarget_set s
    portals := fun name address => x.containsPortal_set s
    portalAddresses := fun name address => by
      rw [Store.mem_portalAddresses?, Store.mem_portalAddresses?]
      exact x.containsPortal_set s
    fresh := fun hmissing hgetter => x.targetAuth?_set_of_fresh s hgetter hmissing _
    secret := fun c => x.read_keep_self v
    initiator := fun c r => x.initiatorAuth?_set_of_name s v }

end Setting

end InitiatorStore
