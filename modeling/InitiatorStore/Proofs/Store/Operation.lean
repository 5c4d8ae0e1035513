import InitiatorStore.Store.Operation

/-!
# What operations leave alone

Every operation but a synchronization works on the caches: it does not look at the medium and leaves
it as it is (`StoreOp.run_congr`, `StoreOp.medium_run`), and it stages nothing
(`StoreOp.staged_run`).
-/

namespace InitiatorStore

namespace StoreOp

variable {op : StoreOp} {s : Store} {v : Vault} {m : Medium}

theorem medium_run (hop : op ≠ .synchronize) : (op.run s v m).medium = m := by
  cases op with
  | synchronize => exact absurd rfl hop
  | secret | setSecret =>
    simp only [run]
    split <;> rfl
  | _ => rfl

/-- What an operation answers and changes does not depend on the medium. -/
theorem run_congr (hop : op ≠ .synchronize) (m' : Medium) :
    (op.run s v m').answer = (op.run s v m).answer ∧
      (op.run s v m').store = (op.run s v m).store ∧
      (op.run s v m').vault = (op.run s v m).vault := by
  cases op with
  | synchronize => exact absurd rfl hop
  | secret | setSecret =>
    simp only [run]
    split <;> exact ⟨rfl, rfl, rfl⟩
  | _ => exact ⟨rfl, rfl, rfl⟩

@[simp] theorem store_run_secret (node : String) (s : Store) (v : Vault) (m : Medium) :
    ((secret node).run s v m).store = s := by
  simp only [run]
  split <;> rfl

@[simp] theorem store_run_setSecret (node : String) (c : Credentials) (s : Store) (v : Vault)
    (m : Medium) : ((setSecret node c).run s v m).store = s := by
  simp only [run]
  split <;> rfl

theorem staged_run (hop : op ≠ .synchronize) :
    (op.run s v m).store.prefs.staged = s.prefs.staged := by
  cases op with
  | synchronize => exact absurd rfl hop
  | secret | setSecret => simp only [store_run_secret, store_run_setSecret]
  | target _ create | portals _ create | portal _ _ create => cases create <;> rfl
  | removeTarget =>
    simp only [run, Store.removeTarget]
    split <;> rfl
  | removePortal =>
    simp only [run, Store.removePortal]
    split <;> rfl
  | _ => rfl

/-- The calls that are refused after an operation, given those that are refused before. -/
def refusals (op : StoreOp) (before : Refusals) : Refusals :=
  match op with
  | .refuse r => r
  | _ => before

theorem refusals_run (hop : op ≠ .synchronize) :
    (op.run s v m).store.prefs.refusals = op.refusals s.prefs.refusals := by
  cases op with
  | synchronize => exact absurd rfl hop
  | secret | setSecret => simp only [store_run_secret, store_run_setSecret, refusals]
  | target _ create | portals _ create | portal _ _ create => cases create <;> rfl
  | removeTarget =>
    simp only [run, Store.removeTarget]
    split <;> rfl
  | removePortal =>
    simp only [run, Store.removePortal]
    split <;> rfl
  | _ => rfl

/-! ### Synchronizing as an operation -/

/-- How the end of a synchronization is answered. -/
def syncAnswer : Except PrefsError Unit → StoreAnswer
  | .ok _ => .done
  | .error e => .prefsFailed e

theorem run_synchronize (s : Store) (v : Vault) (m : Medium) :
    StoreOp.synchronize.run s v m =
      ⟨syncAnswer (s.synchronize m).result, (s.synchronize m).store, v, (s.synchronize m).medium,
        (s.synchronize m).notices⟩ := by
  simp only [run]
  cases (s.synchronize m).result <;> rfl

theorem syncAnswer_eq_done {r : Except PrefsError Unit} : syncAnswer r = .done ↔ r = .ok () := by
  cases r <;> simp [syncAnswer]

theorem syncAnswer_eq_prefsFailed {r : Except PrefsError Unit} {e : PrefsError} :
    syncAnswer r = .prefsFailed e ↔ r = .error e := by
  cases r <;> simp [syncAnswer]

end StoreOp

end InitiatorStore
