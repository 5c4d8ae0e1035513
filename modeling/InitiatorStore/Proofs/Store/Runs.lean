import InitiatorStore.Proofs.Store.Sound

/-!
# Several operations on a store

`StoreOp.runAll` is what a list of operations leaves of a store and its vault.  What each operation
keeps is kept by all of them together: a store stays sound (`StoreOp.sound_runAll`), stores with the
same encodings stay so (`StoreOp.alike_runAll`), and operations that are about one namespace leave
the others alone (`StoreOp.agree_runAll`).
-/

namespace InitiatorStore

namespace StoreOp

/-- The store and the vault after several operations. -/
def runAll (s : Store) (v : Vault) (m : Medium) : List StoreOp → Store × Vault
  | [] => (s, v)
  | op :: ops => runAll (op.run s v m).store (op.run s v m).vault m ops

variable {s t : Store} {m : Medium} {ops : List StoreOp}

theorem runAll_append (s : Store) (v : Vault) (m : Medium) (ops ops' : List StoreOp) :
    runAll s v m (ops ++ ops') =
      runAll (runAll s v m ops).1 (runAll s v m ops).2 m ops' := by
  induction ops generalizing s v with
  | nil => rfl
  | cons op ops ih => exact ih _ _

theorem sound_runAll (h : s.Sound m) (hops : .synchronize ∉ ops) (v : Vault) :
    (runAll s v m ops).1.Sound m := by
  induction ops generalizing s v with
  | nil => exact h
  | cons op ops ih =>
    rw [List.mem_cons, not_or] at hops
    have hrun := h.run op v
    rw [medium_run (Ne.symm hops.1)] at hrun
    exact ih hrun hops.2 _

/-- Stores with the same encodings are left with the same encodings, whatever vault and medium they
are on. -/
theorem alike_runAll (h : Store.Alike Likeness.encoded s t) (hops : .synchronize ∉ ops)
    (v v' : Vault) (m m' : Medium) :
    Store.Alike Likeness.encoded (runAll s v m ops).1 (runAll t v' m' ops).1 := by
  induction ops generalizing s t v v' with
  | nil => exact h
  | cons op ops ih =>
    rw [List.mem_cons, not_or] at hops
    exact ih (h.run Likeness.kept_encoded (Ne.symm hops.1) v v' m m') hops.2 _ _

/-- Operations that are all about one namespace leave the others as they are. -/
theorem agree_runAll {ns ns' : Namespace} (hops : ∀ op ∈ ops, op.subject? = some ns)
    (hne : ns' ≠ ns) (v : Vault) :
    Cache.Agree ns' (runAll s v m ops).1.cache s.cache ∧
      (runAll s v m ops).1.isModified ns' = s.isModified ns' := by
  induction ops generalizing s v with
  | nil => exact ⟨.refl ns' _, rfl⟩
  | cons op ops ih =>
    have hsubject := hops op (List.mem_cons_self ..)
    have hop : op ≠ .synchronize := by
      rintro rfl
      cases hsubject
    have hother : op.subject? ≠ some ns' := by
      rw [hsubject]
      exact fun heq => hne (Option.some.inj heq).symm
    obtain ⟨hvalue, hmark⟩ := (follows_run hop (s := s) (v := v) (m := m)).agree_of_ne hother
    obtain ⟨hvalues, hmarks⟩ := ih (fun op' hop' => hops op' (List.mem_cons_of_mem _ hop')) _
    exact ⟨hvalues.trans hvalue, hmarks.trans hmark⟩

/-- Operations that are about a namespace leave the calls that are refused as they are. -/
theorem refusals_runAll {ns : Namespace} (hops : ∀ op ∈ ops, op.subject? = some ns) (v : Vault) :
    (runAll s v m ops).1.prefs.refusals = s.prefs.refusals := by
  induction ops generalizing s v with
  | nil => rfl
  | cons op ops ih =>
    have hsubject := hops op (List.mem_cons_self ..)
    have hop : op ≠ .synchronize := by
      rintro rfl
      cases hsubject
    have hrefusals : op.refusals s.prefs.refusals = s.prefs.refusals := by
      cases op with
      | refuse => cases hsubject
      | _ => rfl
    have hrest := ih (fun op' hop' => hops op' (List.mem_cons_of_mem _ hop'))
      (s := (op.run s v m).store) (op.run s v m).vault
    exact hrest.trans ((refusals_run hop).trans hrefusals)

end StoreOp

end InitiatorStore
