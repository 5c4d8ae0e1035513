import InitiatorStore.Proofs.Store.Vault
import InitiatorStore.Proofs.World.Run

/-!
# Credentials of stores that share a vault

Credentials go to the vault at once and the tags of methods go through caches and preferences, so
what a store answers about the authentication of a node depends on the history of all stores.
`World.authSound_run` says how: the tag is the one that this store caches, and the credentials are
those that any store on the vault was the last to write for the node, as long as the vault works.

The history is `World.written`, the credentials that the events write, with the latest first.  That
the shared vault holds just these and counts them is kept by every event (`World.Keeps.step`).
-/

namespace InitiatorStore

namespace World

/-- The credentials that an event writes to the shared vault, with the node that they belong to:
those that a store on this vault sets, for a target, for the initiator or directly, while the vault
is in order. -/
def written? (w : World) : WorldEvent → Option (String × Credentials)
  | .act i op =>
    if (w.seat i).vault = 0 then op.written? (w.seat i).store w.sharedVault else none
  | _ => none

/-- The credentials that some events write to the shared vault, the latest first. -/
def written (w : World) : List WorldEvent → List (String × Credentials)
  | [] => []
  | e :: es => written (w.step e).2.1 es ++ (w.written? e).toList

/-- What is answered about the authentication of a node, if there is a record of it, tells the tag
in the record and the credentials that have been written, the latest first. -/
structure TellsAuth (w : World) (written : List (String × Credentials)) (node : String)
    (tag : Option (Option String)) (answer : Option Auth) : Prop where
  /-- Without a record there is no answer. -/
  absent : answer = none ↔ tag = none
  /-- There are credentials just where the tag is `CHAP` and the vault works, and then they are the
  ones that were written last. -/
  chap : ∀ c, answer = some (.chap c) ↔
    tag = some (some "CHAP") ∧ w.sharedVault.fault = none ∧ written.lookup node = some c
  /-- In every other case there is no authentication. -/
  otherwise : tag ≠ none → ¬ (tag = some (some "CHAP") ∧ w.sharedVault.fault = none ∧
    ∃ c, written.lookup node = some c) → answer = some .none

/-- What the stores on the shared vault answer about authentication, given the credentials that have
been written to it, the latest first. -/
structure AuthSound (w : World) (written : List (String × Credentials)) : Prop where
  /-- Each of them tells the authentication of every target. -/
  target : ∀ i name, (w.seat i).vault = 0 →
    ∃ answer, (w.step (.act i (.targetAuth name))).1 = .store (.auth answer) ∧
      w.TellsAuth written name (((w.seat i).store.target? name).map (·.authentication)) answer
  /-- Each of them tells that of the initiator, under the name that it has now. -/
  initiator : ∀ i, (w.seat i).vault = 0 →
    ∃ answer, (w.step (.act i .initiatorAuth)).1 = .store (.auth answer) ∧
      w.TellsAuth written (w.seat i).store.initiatorNode
        ((w.seat i).store.initiator?.map (·.authentication)) answer
  /-- To set no authentication writes no credentials. -/
  unwritten : ∀ i name,
    (w.step (.act i (.setTargetAuth name .none))).2.1.vaults = w.vaults ∧
      (w.step (.act i (.setInitiatorAuth .none))).2.1.vaults = w.vaults
  /-- The vault counts the credentials that have been written. -/
  writes : w.sharedVault.writes = written.length

/-! ### The shared vault -/

/-- The shared vault is there, and has taken some credentials. -/
structure Keeps (w : World) (written : List (String × Credentials)) : Prop where
  shared : 0 < w.vaults.length
  vault : w.sharedVault.Keeps written

variable {w : World} {written : List (String × Credentials)}

theorem keeps_start (medium : Medium) (fault : Option VaultFault) (removal : Removal) :
    (start medium { fault } removal).Keeps [] :=
  ⟨Nat.one_pos, Vault.keeps_empty fault⟩

theorem sharedVault_openStore (h : 0 < w.vaults.length) (removal : Removal) (own : Option Vault) :
    (w.openStore removal own).sharedVault = w.sharedVault := by
  cases own with
  | none => rfl
  | some own =>
    show (w.vaults ++ [own]).getD 0 {} = w.vaults.getD 0 {}
    rw [List.getD_eq_getElem?_getD, List.getElem?_append_left h, List.getD_eq_getElem?_getD]

theorem sharedVault_act (w : World) (i : Nat) (op : StoreOp) :
    (w.act i op).2.1.sharedVault =
      if 0 = (w.seat i).vault ∧ (w.seat i).vault < w.vaults.length then
        (op.run (w.seat i).store (w.vault (w.seat i).vault) w.medium).vault
      else w.sharedVault :=
  getD_set ..

theorem Keeps.act (h : w.Keeps written) (i : Nat) (op : StoreOp) :
    (w.act i op).2.1.Keeps ((w.written? (.act i op)).toList ++ written) := by
  refine ⟨Nat.lt_of_lt_of_eq h.shared List.length_set.symm, ?_⟩
  rw [sharedVault_act, written?]
  by_cases hvault : (w.seat i).vault = 0
  · rw [if_pos ⟨hvault.symm, hvault ▸ h.shared⟩, if_pos hvault, hvault]
    exact StoreOp.keeps_run h.vault op _ _
  · rw [if_neg fun hplace => hvault hplace.1.symm, if_neg hvault]
    exact h.vault

theorem Keeps.step (h : w.Keeps written) (e : WorldEvent) :
    (w.step e).2.1.Keeps ((w.written? e).toList ++ written) := by
  cases e with
  | act i op => exact h.act i op
  | «open» removal own =>
    rw [step_open]
    refine ⟨?_, (sharedVault_openStore h.shared removal own).symm ▸ h.vault⟩
    have hshared := h.shared
    cases own with
    | none => exact hshared
    | some own => simp [openStore]
  | vaultFault fault =>
    have hfault : (w.step (.vaultFault fault)).2.1.sharedVault = { w.sharedVault with fault } :=
      (getD_set ..).trans (if_pos ⟨rfl, h.shared⟩)
    refine ⟨Nat.lt_of_lt_of_eq h.shared List.length_set.symm, ?_⟩
    rw [hfault]
    exact ⟨h.vault.kind, h.vault.entries, h.vault.writes⟩
  | put key value =>
    simp only [World.step]
    split <;> exact ⟨h.shared, h.vault⟩
  | change c => exact ⟨h.shared, h.vault⟩

theorem Keeps.run (h : w.Keeps written) (es : List WorldEvent) :
    (w.run es).Keeps (w.written es ++ written) := by
  induction es generalizing w written with
  | nil => exact h
  | cons e es ih =>
    have hrun := ih (h.step e)
    rwa [← List.append_assoc] at hrun

/-! ### Answers -/

/-- What the shared vault makes of the tag of a node tells the tag and the credentials that the
vault has taken. -/
theorem Keeps.tellsAuth (h : w.Keeps written) (node : String) (tag : Option (Option String)) :
    w.TellsAuth written node tag
      (tag.map fun t => w.sharedVault.auth node (t.bind AuthMethod.ofTag?)) := by
  have hmethod : ∀ t : Option String, t.bind AuthMethod.ofTag? = some .chap ↔ t = some "CHAP" := by
    intro t
    cases t with
    | none => simp
    | some s => simp [AuthMethod.ofTag?_eq_chap]
  have hchap : ∀ t c, w.sharedVault.auth node (t.bind AuthMethod.ofTag?) = .chap c ↔
      t = some "CHAP" ∧ w.sharedVault.fault = none ∧ written.lookup node = some c := by
    intro t c
    rw [Vault.auth_eq_chap, hmethod, h.vault.read_eq_ok]
  cases tag with
  | none => exact ⟨by simp, by simp, by simp⟩
  | some t =>
    refine ⟨by simp, fun c => ?_, fun _ hnot => ?_⟩
    · simpa using hchap t c
    · cases hauth : w.sharedVault.auth node (t.bind AuthMethod.ofTag?) with
      | none => exact congrArg some hauth
      | chap c =>
        obtain ⟨htag, hfault, hlast⟩ := (hchap t c).1 hauth
        exact absurd ⟨congrArg some htag, hfault, c, hlast⟩ hnot

theorem Keeps.authSound (h : w.Keeps written) : w.AuthSound written where
  target := by
    intro i name hvault
    have hshared : w.vault (w.seat i).vault = w.sharedVault := congrArg w.vault hvault
    refine ⟨(w.seat i).store.targetAuth? w.sharedVault name, ?_, ?_⟩
    · show WorldAnswer.store (.auth ((w.seat i).store.targetAuth? (w.vault _) name)) = _
      rw [hshared]
    · have htells := h.tellsAuth name (((w.seat i).store.target? name).map (·.authentication))
      rwa [Option.map_map] at htells
  initiator := by
    intro i hvault
    have hshared : w.vault (w.seat i).vault = w.sharedVault := congrArg w.vault hvault
    refine ⟨(w.seat i).store.initiatorAuth? w.sharedVault, ?_, ?_⟩
    · show WorldAnswer.store (.auth ((w.seat i).store.initiatorAuth? (w.vault _))) = _
      rw [hshared]
    · have htells := h.tellsAuth (w.seat i).store.initiatorNode
        ((w.seat i).store.initiator?.map (·.authentication))
      -- where there is a record, the vault is asked about the node that it names
      unfold Store.initiatorNode Store.initiatorName? at htells ⊢
      unfold Store.initiatorAuth?
      cases hrecord : (w.seat i).store.initiator? <;> rw [hrecord] at htells <;> exact htells
  unwritten := fun i name => ⟨vaults_act rfl, vaults_act rfl⟩
  writes := h.vault.writes

/-- After any events, the stores on a shared vault that was empty tell of every node the credentials
that were written last, and the vault has counted the writes. -/
theorem authSound_run (medium : Medium) (fault : Option VaultFault) (removal : Removal)
    (es : List WorldEvent) :
    ((start medium { fault } removal).run es).AuthSound
      ((start medium { fault } removal).written es) := by
  have hkeeps := (keeps_start medium fault removal).run es
  rw [List.append_nil] at hkeeps
  exact hkeeps.authSound

/-- An initiator that takes another name leaves its credentials with the old one. -/
example : (((start .memory {} .compat).run
    [.act 0 (.setInitiatorName "a"), .act 0 (.setInitiatorAuth (.chap ⟨"alice", "one"⟩)),
      .act 0 (.setInitiatorName "b")]).step (.act 0 .initiatorAuth)).1 =
    .store (.auth (some .none)) := rfl

end World

end InitiatorStore
