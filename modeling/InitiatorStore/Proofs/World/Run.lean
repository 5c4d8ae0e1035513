import InitiatorStore.Proofs.Positions
import InitiatorStore.Proofs.Store.Sound
import InitiatorStore.World

/-!
# Runs of several stores

`World.run` is a list of events one after the other.  What holds of a world with one store, opened
with nothing staged, and is kept by every event holds after every run: each store is sound
(`World.Sound`), and in the file tree everything stands in a directory (`World.closed_run`).
-/

namespace InitiatorStore

/-- Whether an event is a write to the medium, or a change of the files, by someone else. -/
def WorldEvent.isForeign : WorldEvent → Bool
  | .put .. | .change .. => true
  | _ => false

namespace World

/-- A world after some events. -/
def run (w : World) : List WorldEvent → World
  | [] => w
  | e :: es => run (w.step e).2.1 es

/-- The answers to some events. -/
def answers (w : World) : List WorldEvent → List WorldAnswer
  | [] => []
  | e :: es => (w.step e).1 :: answers (w.step e).2.1 es

/-- A world that is reached from one store, opened with nothing staged. -/
def Reachable (w : World) : Prop :=
  ∃ medium vault removal es, medium.files.Closed ∧ w = (start medium vault removal).run es

variable {w : World}

/-! ### One event -/

/-- A store that is not open yet is a fresh one. -/
theorem seat_of_length_le {i : Nat} (h : w.seats.length ≤ i) : w.seat i = {} :=
  getD_of_length_le h {}

/-- The seats after an operation on one of the stores. -/
theorem seat_act (w : World) (i : Nat) (op : StoreOp) (j : Nat) :
    (w.act i op).2.1.seat j =
      if j = i ∧ i < w.seats.length then
        { w.seat i with
          store := (op.run (w.seat i).store (w.vault (w.seat i).vault) w.medium).store }
      else w.seat j :=
  getD_set ..

theorem step_act (w : World) (i : Nat) (op : StoreOp) :
    (w.step (.act i op)).2.1 = (w.act i op).2.1 := rfl

theorem step_open (w : World) (removal : Removal) (own : Option Vault) :
    (w.step (.open removal own)).2.1 = w.openStore removal own := rfl

theorem length_act (w : World) (i : Nat) (op : StoreOp) :
    (w.act i op).2.1.seats.length = w.seats.length :=
  List.length_set

theorem set_vault (w : World) (i : Nat) : w.vaults.set i (w.vault i) = w.vaults := by
  by_cases hi : i < w.vaults.length
  · have hvault : w.vault i = w.vaults[i] := by simp [vault, List.getD_eq_getElem?_getD, hi]
    rw [hvault, List.set_getElem_self]
  · exact List.set_eq_of_length_le (Nat.not_lt.1 hi)

theorem vaults_act {op : StoreOp} {i : Nat}
    (h : (op.run (w.seat i).store (w.vault (w.seat i).vault) w.medium).vault =
      w.vault (w.seat i).vault) : (w.act i op).2.1.vaults = w.vaults := by
  refine Eq.trans (congrArg (w.vaults.set (w.seat i).vault) h) ?_
  exact set_vault w _

/-- What a synchronization of one of the stores comes to. -/
theorem synchronizes_step (w : World) (i : Nat) :
    ∃ y, (w.seat i).store.synchronize w.medium = y ∧
      Store.Synchronizes (w.seat i).store w.medium y ∧
      (w.step (.act i .synchronize)).1 = .store (StoreOp.syncAnswer y.result) ∧
      (w.step (.act i .synchronize)).2.1.medium = y.medium ∧
      (i < w.seats.length → ((w.step (.act i .synchronize)).2.1.seat i).store = y.store) := by
  have hrun := StoreOp.run_synchronize (w.seat i).store (w.vault (w.seat i).vault) w.medium
  refine ⟨_, rfl, Store.synchronizes _ w.medium, ?_, ?_, fun hi => ?_⟩
  · exact congrArg (fun t => WorldAnswer.store (Turn.answer t)) hrun
  · exact congrArg Turn.medium hrun
  · refine Eq.trans (congrArg Seat.store (seat_act w i .synchronize i)) ?_
    rw [if_pos ⟨rfl, hi⟩, hrun]

theorem step_synchronize_eq_done (w : World) (i : Nat) :
    (w.step (.act i .synchronize)).1 = .store .done ↔
      ((w.seat i).store.synchronize w.medium).result = .ok () := by
  obtain ⟨y, rfl, -, hanswer, -⟩ := w.synchronizes_step i
  rw [hanswer, WorldAnswer.store.injEq, StoreOp.syncAnswer_eq_done]

/-- The seat of a store that is opened now. -/
def newSeat (w : World) (removal : Removal) : Option Vault → Seat
  | none => { store := { removal } }
  | some _ => { store := { removal }, vault := w.vaults.length }

theorem seats_openStore (w : World) (removal : Removal) (own : Option Vault) :
    (w.openStore removal own).seats = w.seats ++ [w.newSeat removal own] := by
  cases own <;> rfl

theorem seat_openStore (w : World) (removal : Removal) (own : Option Vault) (j : Nat) :
    (w.openStore removal own).seat j =
      if j < w.seats.length then w.seat j
      else if j = w.seats.length then w.newSeat removal own else {} := by
  rw [seat, seats_openStore]
  exact getD_concat ..

theorem medium_openStore (w : World) (removal : Removal) (own : Option Vault) :
    (w.openStore removal own).medium = w.medium := by
  cases own <;> rfl

theorem medium_put (w : World) (key : String) (value : Option Node) :
    (w.step (.put key value)).2.1.medium = (w.medium.put key value).medium := by
  simp only [step]
  split <;> rfl

theorem seat_put (w : World) (key : String) (value : Option Node) (j : Nat) :
    (w.step (.put key value)).2.1.seat j = w.seat j := by
  simp only [step]
  split <;> rfl

/-- To a store, an event is an operation on it, or leaves its caches as they are. -/
theorem store_step (w : World) (i : Nat) (e : WorldEvent) :
    (∃ op, e = .act i op ∧ i < w.seats.length ∧ ((w.step e).2.1.seat i).store =
      (op.run (w.seat i).store (w.vault (w.seat i).vault) w.medium).store) ∨
    (∀ op, e = .act i op → ¬ i < w.seats.length) ∧
      ((w.step e).2.1.seat i).store.cache = (w.seat i).store.cache := by
  cases e with
  | act j op =>
    rw [step_act, seat_act]
    by_cases hij : i = j ∧ j < w.seats.length
    · obtain ⟨rfl, hi⟩ := hij
      rw [if_pos ⟨rfl, hi⟩]
      exact .inl ⟨op, rfl, hi, rfl⟩
    · rw [if_neg hij]
      refine .inr ⟨fun op' he hi => hij ?_, rfl⟩
      obtain ⟨rfl, -⟩ := WorldEvent.act.inj he
      exact ⟨rfl, hi⟩
  | «open» removal own =>
    refine .inr ⟨nofun, ?_⟩
    rw [step_open, seat_openStore]
    split
    · rfl
    · next hi =>
      -- a store that is opened is as blank as one that is not open
      rw [seat_of_length_le (Nat.not_lt.1 hi)]
      split
      · cases own <;> rfl
      · rfl
  | vaultFault fault => exact .inr ⟨nofun, rfl⟩
  | put key value => exact .inr ⟨nofun, by rw [seat_put]⟩
  | change c => exact .inr ⟨nofun, rfl⟩

/-! ### What holds at all times -/

/-- Every store is sound. -/
def Sound (w : World) : Prop := ∀ i, (w.seat i).store.Sound w.medium

theorem sound_start (medium : Medium) (vault : Vault) (removal : Removal) :
    (start medium vault removal).Sound := by
  intro i
  cases i with
  | zero => exact Store.sound_fresh {} removal medium
  | succ i => exact Store.sound_fresh {} .compat medium

theorem Sound.act (h : w.Sound) (i : Nat) (op : StoreOp) : (w.act i op).2.1.Sound := by
  intro j
  rw [seat_act]
  split
  · exact (h i).run op _
  · exact (h j).of_path?_eq (StoreOp.path?_run op _ _ w.medium)

theorem Sound.openStore (h : w.Sound) (removal : Removal) (own : Option Vault) :
    (w.openStore removal own).Sound := by
  intro j
  rw [medium_openStore, seat_openStore]
  split
  · exact h j
  · split
    · cases own <;> exact Store.sound_fresh {} removal w.medium
    · exact Store.sound_fresh {} .compat w.medium

theorem Sound.step (h : w.Sound) (e : WorldEvent) : (w.step e).2.1.Sound := by
  cases e with
  | act i op => exact h.act i op
  | «open» removal own => exact h.openStore removal own
  | vaultFault fault => exact h
  | put key value =>
    intro j
    rw [seat_put, medium_put]
    exact (h j).of_path?_eq (Prefs.commits _ w.medium).path?
  | change c => exact fun j => (h j).of_path?_eq rfl

theorem Sound.run (h : w.Sound) (es : List WorldEvent) : (w.run es).Sound := by
  induction es generalizing w with
  | nil => exact h
  | cons e es ih => exact ih (h.step e)

/-- In a file tree where everything stands in a directory it stays so. -/
theorem closed_step (h : w.medium.files.Closed) (e : WorldEvent) :
    (w.step e).2.1.medium.files.Closed := by
  cases e with
  | act i op => exact StoreOp.closed_run h op _ _
  | «open» removal own => exact (medium_openStore w removal own).symm ▸ h
  | vaultFault fault => exact h
  | put key value =>
    rw [medium_put]
    exact (Prefs.commits _ w.medium).closed h
  | change c => exact h.change c

theorem closed_run (h : w.medium.files.Closed) (es : List WorldEvent) :
    (w.run es).medium.files.Closed := by
  induction es generalizing w with
  | nil => exact h
  | cons e es ih => exact ih (closed_step h e)

theorem Reachable.sound (h : w.Reachable) : w.Sound := by
  obtain ⟨medium, vault, removal, es, -, rfl⟩ := h
  exact (sound_start medium vault removal).run es

theorem Reachable.closed (h : w.Reachable) : w.medium.files.Closed := by
  obtain ⟨medium, vault, removal, es, hclosed, rfl⟩ := h
  exact closed_run hclosed es

end World

end InitiatorStore
