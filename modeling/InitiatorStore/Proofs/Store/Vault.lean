import InitiatorStore.Keyed.Lemmas
import InitiatorStore.Proofs.Store.Operation

/-!
# Operations and the vault

Between a store and its vault little passes.  An operation writes to the vault the credentials that
it sets, if it sets any, and nothing else (`StoreOp.vault_run`).  In the other direction the vault
decides what is answered when it is asked, and nothing else: what an operation answers besides, and
what it makes of the store and of the medium, is the same for every vault and for every choice of
credentials (`StoreOp.run_redact`).

A vault in memory is told by the credentials that it has taken (`Vault.Keeps`).
-/

namespace InitiatorStore

/-! ### What a vault holds -/

namespace Vault

variable {v : Vault} {node : String} {c : Credentials} {written : List (String × Credentials)}

theorem write_of_writeError? {e : SecretError} (h : v.writeError? node = some e)
    (c : Credentials) : v.write node c = v := by
  rw [write, h]

theorem write_of_fault {f : VaultFault} (h : v.fault = some f) (node : String) (c : Credentials) :
    v.write node c = v := by
  refine write_of_writeError? (e := f.error node) ?_ c
  rw [writeError?, h]

theorem writeError?_eq_none : v.writeError? node = none ↔ v.fault = none ∧ v.kind = .memory := by
  unfold writeError?
  cases v.fault <;> cases v.kind <;> simp

/-- Credentials that a vault takes are read from it. -/
theorem read_write_self (h : v.writeError? node = none) (c : Credentials) :
    (v.write node c).read node = .ok c := by
  obtain ⟨hfault, hkind⟩ := writeError?_eq_none.1 h
  simp [write, h, read, hfault, hkind]

theorem read_write_of_ne {node' : String} (h : node' ≠ node) (v : Vault) (c : Credentials) :
    (v.write node c).read node' = v.read node' := by
  cases herror : v.writeError? node with
  | some e => rw [write_of_writeError? herror]
  | none =>
    obtain ⟨hfault, hkind⟩ := writeError?_eq_none.1 herror
    simp [write, herror, read, hfault, hkind, h]

theorem write_comm {node' : String} (h : node ≠ node') (v : Vault) (c c' : Credentials) :
    (v.write node c).write node' c' = (v.write node' c').write node c := by
  obtain ⟨kind, entries, writes, fault⟩ := v
  cases fault with
  | some f => rfl
  | none =>
    cases kind with
    | keyring service => rfl
    | memory =>
      exact congrArg (fun m => (⟨.memory, m, writes + 1 + 1, none⟩ : Vault))
        (Entries.insert_comm h c c' entries)

/-- A vault in memory that has taken some credentials, given with the nodes that they belong to and
the latest first. -/
structure Keeps (v : Vault) (written : List (String × Credentials)) : Prop where
  kind : v.kind = .memory
  /-- Of each node it has the credentials that were written last. -/
  entries : ∀ node, v.entries.get? node = written.lookup node
  /-- It has counted the writes. -/
  writes : v.writes = written.length

theorem keeps_empty (fault : Option VaultFault) : Keeps { fault } [] := ⟨rfl, fun _ => rfl, rfl⟩

theorem Keeps.write (h : v.Keeps written) (hfault : v.fault = none) (node : String)
    (c : Credentials) : (v.write node c).Keeps ((node, c) :: written) := by
  have hallowed : v.writeError? node = none := by rw [writeError?, hfault, h.kind]
  rw [Vault.write, hallowed]
  refine ⟨h.kind, fun node' => ?_, congrArg (· + 1) h.writes⟩
  rw [Entries.get?_insert, List.lookup_cons, h.entries]
  by_cases hnode : node' = node
  · simp [hnode]
  · rw [if_neg hnode, beq_eq_false_iff_ne.2 hnode]

theorem Keeps.read_eq_ok (h : v.Keeps written) :
    v.read node = .ok c ↔ v.fault = none ∧ written.lookup node = some c := by
  unfold read
  rw [h.kind, h.entries]
  cases hfault : v.fault with
  | some f => simp
  | none => cases hlookup : written.lookup node <;> simp

theorem auth_eq_chap {method : Option AuthMethod} :
    v.auth node method = .chap c ↔ method = some .chap ∧ v.read node = .ok c := by
  unfold auth
  split
  · next hmethod => cases hread : v.read node <;> simp [hmethod]
  · next hmethod => simp [hmethod]

/-- The authentication of a node depends on what is read of it. -/
theorem auth_congr {v' : Vault} (h : v'.read node = v.read node) (method : Option AuthMethod) :
    v'.auth node method = v.auth node method := by
  rw [auth, auth, h]

end Vault

/-- The text `CHAP`, and no other, is the tag of the method. -/
theorem AuthMethod.ofTag?_eq_chap {tag : String} : ofTag? tag = some .chap ↔ tag = "CHAP" := by
  unfold ofTag?
  split <;> simp_all

/-! ### What reaches the vault -/

namespace StoreOp

/-- The credentials that an operation on a store sets, with the node that they belong to. -/
def credentials? (s : Store) : StoreOp → Option (String × Credentials)
  | .setTargetAuth name (.chap c) => some (name, c)
  | .setInitiatorAuth (.chap c) => some (s.initiatorNode, c)
  | .setSecret node c => some (node, c)
  | _ => none

/-- An operation tries to write the credentials that it sets, and leaves the vault otherwise. -/
theorem vault_run (op : StoreOp) (s : Store) (v : Vault) (m : Medium) :
    (op.run s v m).vault =
      match op.credentials? s with
      | some (node, c) => v.write node c
      | none => v := by
  cases op with
  | setTargetAuth name auth => cases auth <;> rfl
  | setInitiatorAuth auth => cases auth <;> rfl
  | setSecret node c =>
    simp only [run, credentials?]
    split
    · rfl
    · next e he => exact (Vault.write_of_writeError? he c).symm
  | secret =>
    simp only [run, credentials?]
    split <;> rfl
  | synchronize => exact congrArg Turn.vault (run_synchronize s v m)
  | _ => rfl

/-- The credentials that an operation writes to a vault in memory: those that it sets, if the vault
is in order. -/
def written? (s : Store) (v : Vault) (op : StoreOp) : Option (String × Credentials) :=
  if v.fault = none then op.credentials? s else none

theorem keeps_run {v : Vault} {written : List (String × Credentials)} (h : v.Keeps written)
    (op : StoreOp) (s : Store) (m : Medium) :
    (op.run s v m).vault.Keeps ((op.written? s v).toList ++ written) := by
  rw [vault_run, written?]
  rcases op.credentials? s with _ | ⟨node, c⟩
  · rw [ite_self]
    exact h
  · cases hfault : v.fault with
    | none => exact h.write hfault node c
    | some f =>
      have hkept : v.write node c = v := Vault.write_of_fault hfault node c
      simpa [hkept] using h

end StoreOp

/-! ### What comes from the vault -/

/-- An authentication of the same method, with blank credentials. -/
def Auth.redact : Auth → Auth
  | .none => .none
  | .chap _ => .chap ⟨"", ""⟩

@[simp] theorem Auth.method_redact (auth : Auth) : auth.redact.method = auth.method := by
  cases auth <;> rfl

namespace StoreOp

/-- An operation with blank credentials in place of those that it is given. -/
def redact : StoreOp → StoreOp
  | .setTargetAuth name auth => .setTargetAuth name auth.redact
  | .setInitiatorAuth auth => .setInitiatorAuth auth.redact
  | .setSecret node _ => .setSecret node ⟨"", ""⟩
  | op => op

/-- Whether the answer to an operation tells about the vault. -/
def asksVault : StoreOp → Bool
  | .targetAuth _ | .initiatorAuth | .secret _ | .setSecret .. => true
  | _ => false

@[simp] theorem asksVault_redact (op : StoreOp) : op.redact.asksVault = op.asksVault := by
  cases op <;> rfl

/-- Neither the vault nor the credentials that are set show in the store, in the medium, or in an
answer that does not come from the vault. -/
theorem run_redact (op : StoreOp) (s : Store) (v v' : Vault) (m : Medium) :
    (op.redact.run s v' m).store = (op.run s v m).store ∧
      (op.redact.run s v' m).medium = (op.run s v m).medium ∧
      (op.asksVault = false → (op.redact.run s v' m).answer = (op.run s v m).answer) := by
  cases op with
  | setTargetAuth name auth =>
    refine ⟨?_, rfl, fun _ => rfl⟩
    simp only [redact, run, Store.setTargetAuth, Auth.method_redact]
  | setInitiatorAuth auth =>
    refine ⟨?_, rfl, fun _ => rfl⟩
    simp only [redact, run, Store.setInitiatorAuth, Auth.method_redact]
  | secret | setSecret =>
    simp only [redact]
    refine ⟨?_, ?_, fun hasks => ?_⟩
    · simp only [store_run_secret, store_run_setSecret]
    · rw [medium_run (by simp), medium_run (by simp)]
    · cases hasks
  | targetAuth | initiatorAuth =>
    refine ⟨rfl, rfl, fun hasks => ?_⟩
    cases hasks
  | synchronize =>
    simp only [redact, run_synchronize]
    exact ⟨trivial, trivial, fun _ => trivial⟩
  | _ => exact ⟨rfl, rfl, fun _ => rfl⟩

end StoreOp

end InitiatorStore
