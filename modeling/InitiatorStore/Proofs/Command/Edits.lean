import InitiatorStore.Command.Reaction
import InitiatorStore.Proofs.Store.Runs
import InitiatorStore.Proofs.Store.Settings

/-!
# Commands as operations on a store

A command changes one namespace at most (`Command.subject?`), and what it does to a store is a short
list of operations on it (`Command.edits`): a command that is not refused leaves the store that
these operations leave, or none if it changes nothing (`Command.changed?_of_react`).  They mark the
namespace of the command and no other (`Command.isModified_runAll`).

The parameters that `session` and `connection` set are those that were there, or the defaults, with
what is given in place of what it stands for; they are in range, so that they read back
(`Command.session_of_react`).
-/

namespace InitiatorStore

/-! ### What is asked for -/

/-- Session parameters with what is given of them in place of what they were. -/
def Session.replace (c : Session) (level? : Option UInt8) (connections? : Option UInt32) :
    Session :=
  { c with
    errorRecoveryLevel := level?.getD c.errorRecoveryLevel
    maxConnections := connections?.getD c.maxConnections }

/-- The authentication that is asked for, if all that it needs is given. -/
def AuthRequest.requested (r : AuthRequest) : Auth :=
  match r.method with
  | .none => .none
  | .chap => .chap ⟨r.user?.getD "", r.secret?.getD ""⟩

namespace Command

/-- The namespace that a command changes, if it changes one. -/
def subject? : Command → Option Namespace
  | .listTargets | .showTarget _ | .showDiscovery => none
  | .addTarget _ | .removeTarget _ | .addPortal .. | .removePortal .. | .setAuth .. =>
    some .targets
  | .session _ none none | .connection _ _ none none => none
  | .session .. | .connection .. => some .targets
  | .initiator none none none => none
  | .initiator .. => some .initiator
  | .clearDiscovery => some .discovery

/-- The operations that a command comes to on a store. -/
def edits (s : Store) : Command → List StoreOp
  | .addTarget target => [.setTarget target]
  | .removeTarget target => [.removeTarget target]
  | .addPortal target portal => [.setPortal target portal]
  | .removePortal target address => [.removePortal target address]
  | .session target level? connections? =>
    [.setSession target (((s.session? target).getD {}).replace level? connections?)]
  | .connection target address header? data? =>
    [.setConnection target address
      (((s.connection? target address).getD {}).withDigests header? data?)]
  | .setAuth target request => [.setTargetAuth target request.requested]
  | .initiator name? alias? request? =>
    (name?.map StoreOp.setInitiatorName).toList ++ (alias?.map StoreOp.setInitiatorAlias).toList ++
      (request?.map fun r => StoreOp.setInitiatorAuth r.requested).toList
  | .clearDiscovery => [.clearDiscovery]
  | .listTargets | .showTarget _ | .showDiscovery => []

/-- The operations of a command are about the namespace that it changes. -/
theorem subject?_edits {command : Command} {ns : Namespace} (h : command.subject? = some ns)
    (s : Store) : ∀ op ∈ command.edits s, op.subject? = some ns := by
  cases command with
  | listTargets | showTarget | showDiscovery => cases h
  | addTarget | removeTarget | addPortal | removePortal | setAuth | clearDiscovery =>
    intro op hop
    obtain rfl := List.mem_singleton.1 hop
    exact h
  | session _ level? connections? =>
    intro op hop
    obtain rfl := List.mem_singleton.1 hop
    cases level? <;> cases connections? <;> first | exact h | cases h
  | connection _ _ header? data? =>
    intro op hop
    obtain rfl := List.mem_singleton.1 hop
    cases header? <;> cases data? <;> first | exact h | cases h
  | initiator name? alias? request? =>
    obtain rfl : .initiator = ns := by
      cases name? <;> cases alias? <;> cases request? <;> cases h <;> rfl
    intro op hop
    simp only [edits, List.mem_append, Option.mem_toList, Option.map_eq_some_iff] at hop
    obtain (⟨name, -, rfl⟩ | ⟨aliasName, -, rfl⟩) | ⟨request, -, rfl⟩ := hop <;> rfl

theorem synchronize_notMem_edits {command : Command} {ns : Namespace}
    (h : command.subject? = some ns) (s : Store) : .synchronize ∉ command.edits s := fun hop => by
  cases subject?_edits h s _ hop

end Command

/-! ### Commands that are not refused -/

theorem exists_of_bind_eq_ok {ε α β : Type} {x : Except ε α} {f : α → Except ε β} {b : β}
    (h : x >>= f = .ok b) : ∃ a, x = .ok a ∧ f a = .ok b := by
  cases x with
  | error e => cases h
  | ok a => exact ⟨a, rfl, h⟩

theorem AuthRequest.auth_eq_ok {r : AuthRequest} {a : Auth} (h : r.auth = .ok a) :
    a = r.requested := by
  obtain ⟨_ | _, _ | user, _ | secret⟩ := r <;> cases h <;> rfl

namespace Session

variable {c new : Session} {level? : Option UInt8} {connections? : Option UInt32}

theorem withLevel_eq_ok (h : c.withLevel level? = .ok new) :
    new = c.replace level? none ∧ (c.Canonical → new.Canonical) := by
  cases level? with
  | none => exact Except.ok.inj h ▸ ⟨rfl, id⟩
  | some level =>
    simp only [withLevel] at h
    split at h
    · next hlevel => exact Except.ok.inj h ▸ ⟨rfl, fun hc => ⟨hlevel, hc.connections⟩⟩
    · cases h

theorem withConnections_eq_ok (h : c.withConnections connections? = .ok new) :
    new = c.replace none connections? ∧ (c.Canonical → new.Canonical) := by
  cases connections? with
  | none => exact Except.ok.inj h ▸ ⟨rfl, id⟩
  | some n =>
    simp only [withConnections] at h
    split at h
    · next hn => exact Except.ok.inj h ▸ ⟨rfl, fun hc => ⟨hc.level, hn⟩⟩
    · cases h

/-- Session parameters that are not refused are those that were asked for, and in range. -/
theorem replace_of_ok {c' : Session} (hlevel : c.withLevel level? = .ok c')
    (hconnections : c'.withConnections connections? = .ok new) :
    new = c.replace level? connections? ∧ (c.Canonical → new.Canonical) := by
  obtain ⟨rfl, hc'⟩ := withLevel_eq_ok hlevel
  obtain ⟨rfl, hnew⟩ := withConnections_eq_ok hconnections
  exact ⟨rfl, fun hc => hnew (hc' hc)⟩

end Session

namespace Store

variable {s : Store} {target address : String}

theorem requireTarget_eq_ok (h : s.requireTarget target = .ok ()) :
    s.containsTarget target = true := by
  unfold requireTarget at h
  split at h
  · assumption
  · cases h

theorem requirePortal_eq_ok (h : s.requirePortal target address = .ok ()) :
    s.containsPortal target address = true := by
  unfold requirePortal at h
  split at h
  · assumption
  · cases h

/-- The removal of a target that is there marks the targets. -/
theorem isModified_removeTarget (h : s.containsTarget target = true) :
    (s.removeTarget target).isModified .targets = true := by
  obtain ⟨r, hr⟩ := Option.isSome_iff_exists.1 h
  obtain ⟨t, ht, hr⟩ := Option.bind_eq_some_iff.1 hr
  have hfound : t.contains target = true := Option.isSome_iff_exists.2 ⟨r, hr⟩
  have htargets : s.targets? = some t := ht
  rw [removeTarget, htargets]
  show (s.cache.targets.modified || s.removal.marks (t.contains target)) = true
  rw [hfound]
  exact Bool.or_true _

/-- The removal of a portal that is there marks the targets. -/
theorem isModified_removePortal (h : s.containsPortal target address = true) :
    (s.removePortal target address).isModified .targets = true := by
  obtain ⟨r, hr⟩ := Option.isSome_iff_exists.1 h
  obtain ⟨t, ht, hr⟩ := Option.bind_eq_some_iff.1 hr
  have hfound : t.contains address = true := Option.isSome_iff_exists.2 ⟨r, hr⟩
  have hportals : s.portals? target = some t := ht
  rw [removePortal, hportals]
  show (s.cache.targets.modified || s.removal.marks (t.contains address)) = true
  rw [hfound]
  exact Bool.or_true _

end Store

namespace Store

variable {s : Store} {v : Vault} {r : Reaction}

/-- The session parameters that are there, or the defaults, are in range. -/
theorem canonical_session? (s : Store) (target : String) :
    ((s.session? target).getD {}).Canonical := by
  cases h : s.session? target with
  | none => exact Session.canonical_default
  | some c =>
    obtain ⟨t, -, ht⟩ := Option.bind_eq_some_iff.1 h
    obtain ⟨n, -, hn⟩ := Option.bind_eq_some_iff.1 ht
    exact Session.canonical_of_ofNode? hn

theorem changed?_of_changeInitiator {name? alias? : Option String} {request? : Option AuthRequest}
    (h : s.changeInitiator v name? alias? request? = .ok r) (m : Medium) :
    r.changed? =
      some (StoreOp.runAll s v m (Command.edits s (.initiator name? alias? request?))) := by
  have hidentity : StoreOp.runAll s v m ((name?.map StoreOp.setInitiatorName).toList ++
      (alias?.map StoreOp.setInitiatorAlias).toList) =
        (s.setInitiatorIdentity name? alias?, v) := by
    cases name? <;> cases alias? <;> rfl
  rw [Command.edits, StoreOp.runAll_append, hidentity]
  cases request? with
  | none => exact Except.ok.inj h ▸ rfl
  | some request =>
    obtain ⟨auth, hauth, h⟩ := exists_of_bind_eq_ok h
    obtain rfl := AuthRequest.auth_eq_ok hauth
    exact Except.ok.inj h ▸ rfl

end Store

namespace Command

variable {s : Store} {v : Vault} {command : Command} {r : Reaction} {target address : String}

/-- A request for session parameters shows those that are there if none are given, and else sets
them as far as they are given. -/
theorem session_of_react {level? : Option UInt8} {connections? : Option UInt32}
    (h : (session target level? connections?).react s v = .ok r) :
    (((s.session? target).getD {}).replace level? connections?).Canonical ∧
      r.changed? = if level?.isNone && connections?.isNone then none else
        some (s.setSession target (((s.session? target).getD {}).replace level? connections?),
          v) := by
  have hcurrent := s.canonical_session? target
  obtain ⟨-, -, hrest⟩ := exists_of_bind_eq_ok h
  split at hrest
  · next hnone =>
    rw [if_pos hnone]
    simp only [Bool.and_eq_true, Option.isNone_iff_eq_none] at hnone
    obtain ⟨rfl, rfl⟩ := hnone
    exact Except.ok.inj hrest ▸ ⟨hcurrent, rfl⟩
  · next hsome =>
    obtain ⟨c, hlevel, hrest⟩ := exists_of_bind_eq_ok hrest
    obtain ⟨new, hconnections, hrest⟩ := exists_of_bind_eq_ok hrest
    obtain ⟨rfl, hnew⟩ := Session.replace_of_ok hlevel hconnections
    rw [if_neg hsome]
    exact Except.ok.inj hrest ▸ ⟨hnew hcurrent, rfl⟩

/-- What is given about the initiator is changed. -/
theorem react_initiator {name? alias? : Option String} {request? : Option AuthRequest}
    {ns : Namespace} (h : (initiator name? alias? request?).subject? = some ns) (s : Store)
    (v : Vault) :
    (initiator name? alias? request?).react s v = s.changeInitiator v name? alias? request? := by
  cases name? <;> cases alias? <;> cases request? <;> first | rfl | cases h

/-- A command that is not refused does what its operations do, and else leaves the store alone. -/
theorem changed?_of_react (h : command.react s v = .ok r) (m : Medium) :
    r.changed? = command.subject?.map fun _ => StoreOp.runAll s v m (command.edits s) := by
  cases command with
  | listTargets | showDiscovery | addTarget | addPortal | clearDiscovery =>
    exact Except.ok.inj h ▸ rfl
  | showTarget | removeTarget | removePortal =>
    obtain ⟨-, -, h⟩ := exists_of_bind_eq_ok h
    exact Except.ok.inj h ▸ rfl
  | session target level? connections? =>
    refine (session_of_react h).2.trans ?_
    cases level? <;> cases connections? <;> rfl
  | connection target address header? data? =>
    obtain ⟨-, -, h⟩ := exists_of_bind_eq_ok h
    cases header? <;> cases data? <;> exact Except.ok.inj h ▸ rfl
  | setAuth target request =>
    obtain ⟨auth, hauth, h⟩ := exists_of_bind_eq_ok h
    obtain rfl := AuthRequest.auth_eq_ok hauth
    exact Except.ok.inj h ▸ rfl
  | initiator name? alias? request? =>
    cases hsubject : (initiator name? alias? request?).subject? with
    | some ns =>
      rw [react_initiator hsubject] at h
      exact Store.changed?_of_changeInitiator h m
    | none =>
      cases name? <;> cases alias? <;> cases request? <;> cases hsubject
      exact Except.ok.inj h ▸ rfl

/-- The operations of a command that is not refused mark the namespace that it changes. -/
theorem isModified_runAll {ns : Namespace} (h : command.react s v = .ok r)
    (hns : command.subject? = some ns) (m : Medium) :
    (StoreOp.runAll s v m (command.edits s)).1.isModified ns = true := by
  cases command with
  | listTargets | showTarget | showDiscovery => cases hns
  | addTarget | addPortal | setAuth | clearDiscovery => cases hns; rfl
  -- a removal marks if it finds what is to be removed, or else it has been refused
  | removeTarget target =>
    cases hns
    obtain ⟨_, hfound, -⟩ := exists_of_bind_eq_ok h
    exact Store.isModified_removeTarget (Store.requireTarget_eq_ok hfound)
  | removePortal target address =>
    cases hns
    obtain ⟨_, hfound, -⟩ := exists_of_bind_eq_ok h
    exact Store.isModified_removePortal (Store.requirePortal_eq_ok hfound)
  | session _ level? connections? => cases level? <;> cases connections? <;> cases hns <;> rfl
  | connection _ _ header? data? => cases header? <;> cases data? <;> cases hns <;> rfl
  | initiator name? alias? request? =>
    cases name? <;> cases alias? <;> cases request? <;> cases hns <;> rfl

end Command

end InitiatorStore
