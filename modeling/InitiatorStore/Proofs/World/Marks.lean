import InitiatorStore.Proofs.Store.Marks
import InitiatorStore.Proofs.World.Run

/-!
# Marks among several stores

Marks tell the truth (`World.marksSound_run`).  An operation that changes a namespace of a store
leaves it marked, and only a synchronization that succeeds takes marks off.  So a namespace without
a mark holds what it held when the store was last synchronized, or it held nothing then and its
empty value has been made since.

To one store every event is one of two things: a synchronization of it that succeeds, after which
its cache is what counts from then on (`World.settled?`), or something that treats its caches as an
operation does (`World.follows_step`).
-/

namespace InitiatorStore

namespace World

/-- The cache of a store after an event, if the event is a synchronization of it that succeeds. -/
def settled? (w : World) (i : Nat) : WorldEvent → Option Cache
  | .act j .synchronize =>
    if j = i then
      match ((w.seat i).store.synchronize w.medium).result with
      | .ok _ => some ((w.step (.act i .synchronize)).2.1.seat i).store.cache
      | .error _ => none
    else none
  | _ => none

/-- The cache of a store after the last synchronization of it that succeeds in the course of some
events. -/
def lastSettled? (w : World) (i : Nat) : List WorldEvent → Option Cache
  | [] => none
  | e :: es => (lastSettled? (w.step e).2.1 i es).or (w.settled? i e)

/-- What the marks of the stores tell, given the cache of each store as it was when the store was
last synchronized. -/
structure MarksSound (w : World) (settled : Nat → Cache) : Prop where
  /-- A namespace that an operation changes is marked, unless its empty value has been made where
  there was none. -/
  changed : ∀ i op ns, op ≠ .synchronize →
    ((w.step (.act i op)).2.1.seat i).store.isModified ns = true ∨
      Cache.Untouched ns (w.seat i).store.cache ((w.step (.act i op)).2.1.seat i).store.cache
  /-- No event takes a mark off, but a synchronization of the store that is done. -/
  kept : ∀ i e ns, ¬ (e = .act i .synchronize ∧ (w.step e).1 = .store .done) →
    (w.seat i).store.isModified ns = true → ((w.step e).2.1.seat i).store.isModified ns = true
  /-- An operation leaves a namespace that it is not about as it is, mark included. -/
  apart : ∀ i op ns, op ≠ .synchronize → op.subject? ≠ some ns →
    Cache.Agree ns ((w.step (.act i op)).2.1.seat i).store.cache (w.seat i).store.cache ∧
      ((w.step (.act i op)).2.1.seat i).store.isModified ns = (w.seat i).store.isModified ns
  /-- A namespace without a mark is as it was when the store was last synchronized, or it was absent
  then and holds its empty value. -/
  untouched : ∀ i ns, (w.seat i).store.isModified ns = false →
    Cache.Untouched ns (settled i) (w.seat i).store.cache

variable {w : World} {i : Nat} {e : WorldEvent} {c : Cache} {ns : Namespace}

/-! ### One event -/

theorem eq_of_settled?_eq_some (h : w.settled? i e = some c) :
    c = ((w.step e).2.1.seat i).store.cache := by
  unfold settled? at h
  split at h
  · split at h
    · next hij =>
      subst hij
      split at h
      · exact (Option.some.inj h).symm
      · cases h
    · cases h
  · cases h

/-- A synchronization that settles nothing has failed. -/
theorem settled?_eq_none_iff : w.settled? i e = none ↔
    ¬ (e = .act i .synchronize ∧ (w.step e).1 = .store .done) := by
  unfold settled?
  split
  · next j =>
    rw [step_synchronize_eq_done]
    by_cases hij : j = i
    · subst hij
      rw [if_pos rfl]
      cases hresult : ((w.seat j).store.synchronize w.medium).result <;> simp
    · rw [if_neg hij]
      simp [hij]
  · next hnot =>
    simp only [true_iff, not_and]
    intro he
    exact absurd he (hnot i)

/-- A synchronization that fails leaves the caches as they are. -/
theorem cache_of_settled?_eq_none (h : w.settled? i (.act i .synchronize) = none) :
    ((w.step (.act i .synchronize)).2.1.seat i).store.cache = (w.seat i).store.cache := by
  rcases w.store_step i (.act i .synchronize) with ⟨-, -, hi, -⟩ | ⟨-, hcache⟩
  · obtain ⟨y, -, hy, hanswer, -, hseat⟩ := w.synchronizes_step i
    rw [settled?_eq_none_iff, hanswer] at h
    rw [hseat hi]
    cases hresult : y.result with
    | ok => exact absurd ⟨rfl, congrArg (WorldAnswer.store ∘ StoreOp.syncAnswer) hresult⟩ h
    | error error => exact hy.cache_of_error hresult
  · exact hcache

/-- To a store that is not settled by it, an event is like an operation on one namespace or none. -/
theorem follows_step (h : w.settled? i e = none) :
    ∃ subject, (w.seat i).store.cache.Follows subject ((w.step e).2.1.seat i).store.cache := by
  rcases w.store_step i e with ⟨op, rfl, -, hstore⟩ | ⟨-, hcache⟩
  · by_cases hop : op = .synchronize
    · subst hop
      exact ⟨none, cache_of_settled?_eq_none h ▸ .none⟩
    · rw [hstore]
      exact ⟨op.subject?, StoreOp.follows_run hop⟩
  · exact ⟨none, hcache ▸ .none⟩

theorem untouched_step
    (h : (w.seat i).store.isModified ns = false → Cache.Untouched ns c (w.seat i).store.cache)
    (hns : ((w.step e).2.1.seat i).store.isModified ns = false) :
    Cache.Untouched ns ((w.settled? i e).getD c) ((w.step e).2.1.seat i).store.cache := by
  cases hsettled : w.settled? i e with
  | some c' =>
    rw [Option.getD_some, eq_of_settled?_eq_some hsettled]
    exact .refl ns _
  | none =>
    obtain ⟨subject, hfollows⟩ := follows_step hsettled
    have hbefore : (w.seat i).store.isModified ns = false := by
      cases hmark : (w.seat i).store.isModified ns with
      | false => rfl
      | true => exact (hfollows.isModified hmark).symm.trans hns
    have hstep := (hfollows.untouched ns).resolve_left (Bool.eq_false_iff.1 hns)
    exact (h hbefore).trans hstep

/-! ### Runs -/

/-- A mark stays until a synchronization of the store is done. -/
theorem isModified_run {es : List WorldEvent} (h : w.lastSettled? i es = none)
    (hns : (w.seat i).store.isModified ns = true) :
    ((w.run es).seat i).store.isModified ns = true := by
  induction es generalizing w with
  | nil => exact hns
  | cons e es ih =>
    obtain ⟨hrest, hstep⟩ := Option.or_eq_none_iff.1 h
    obtain ⟨subject, hfollows⟩ := follows_step hstep
    exact ih hrest (hfollows.isModified hns)

theorem untouched_run
    (h : (w.seat i).store.isModified ns = false → Cache.Untouched ns c (w.seat i).store.cache)
    (es : List WorldEvent) (hns : ((w.run es).seat i).store.isModified ns = false) :
    Cache.Untouched ns ((w.lastSettled? i es).getD c) ((w.run es).seat i).store.cache := by
  induction es generalizing w c with
  | nil => exact h hns
  | cons e es ih =>
    have hrun := ih (untouched_step (e := e) h) hns
    rw [lastSettled?]
    -- a later synchronization covers this event
    cases hlast : (w.step e).2.1.lastSettled? i es with
    | none =>
      rw [hlast] at hrun
      exact hrun
    | some c' =>
      rw [hlast] at hrun
      exact hrun

/-- After any events, the marks of all stores tell what has been changed since each store was last
synchronized, or opened if it never was. -/
theorem marksSound_run (medium : Medium) (vault : Vault) (removal : Removal)
    (es : List WorldEvent) :
    ((start medium vault removal).run es).MarksSound fun i =>
      ((start medium vault removal).lastSettled? i es).getD {} where
  changed := by
    intro i op ns hop
    obtain ⟨subject, hfollows⟩ := follows_step (e := .act i op) (i := i)
      (settled?_eq_none_iff.2 fun h => hop (WorldEvent.act.inj h.1).2)
    exact hfollows.untouched ns
  kept := by
    intro i e ns he hns
    obtain ⟨subject, hfollows⟩ := follows_step (settled?_eq_none_iff.2 he)
    exact hfollows.isModified hns
  apart := by
    intro i op ns hop hne
    generalize (start medium vault removal).run es = w
    rw [step_act, seat_act]
    split
    · exact (StoreOp.follows_run hop).agree_of_ne hne
    · exact ⟨.refl ns _, rfl⟩
  untouched := by
    intro i ns hns
    refine untouched_run (fun _ => ?_) es hns
    cases i <;> exact .refl ns {}

/-- A record that is made on demand is not marked. -/
example : ((start .memory {} .compat).run [.act 0 (.initiator true)]).seat 0 =
    { store := { cache := { initiator := { value := some {}, modified := false } } } } := by
  decide

end World

end InitiatorStore
