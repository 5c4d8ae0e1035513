import InitiatorStore.Proofs.Store.Matches
import InitiatorStore.Proofs.World.Run
import Mathlib.Data.List.Forall2

/-!
# Restarting

A store that has just been synchronized can be replaced by a fresh one that is synchronized in its
turn: no later event shows which of the two is there (`World.answers_restart`).  The records of the
two may differ, and do differ where reading back is not the reverse of writing; what both have is
the encoding.

The argument is a simulation.  Worlds match when they have the same medium and vaults and stores
that match place by place (`World.Matches`), every event makes matching worlds of matching ones with
like answers (`World.Matches.step`), and a restart makes a world that matches
(`World.Matches.restart`).
-/

namespace InitiatorStore

/-- Two answers to an event are the same, up to the encoding of records and to lists of calls. -/
def WorldAnswer.Alike : WorldAnswer → WorldAnswer → Prop
  | .store a, .store b => a.Alike b
  | a, b => a = b

/-- Two seats use the same vault, and their stores match. -/
structure Seat.Matches (a b : Seat) : Prop where
  store : a.store.Matches b.store
  vault : b.vault = a.vault

theorem Seat.matches_fresh (removal : Removal) (vault : Nat) :
    Matches { store := { removal }, vault } { store := { removal }, vault } :=
  ⟨⟨⟨Cache.alike_empty _, rfl⟩, rfl, rfl⟩, rfl⟩

/-- A seat with a fresh store that removes as the one before did. -/
def Seat.renewed (s : Seat) : Seat := { s with store := { removal := s.store.removal } }

namespace World

variable {w u : World}

/-- Two worlds have the same medium and vaults, and their stores match. -/
structure Matches (w u : World) : Prop where
  medium : u.medium = w.medium
  vaults : u.vaults = w.vaults
  length : u.seats.length = w.seats.length
  seats : ∀ i, (w.seat i).Matches (u.seat i)

/-! ### One event -/

theorem Matches.vault_eq (h : Matches w u) (i : Nat) : u.vault i = w.vault i := by
  rw [vault, vault, h.vaults]

/-- An operation on a store in one world and in the other. -/
theorem Matches.act (h : Matches w u) (i : Nat) (op : StoreOp) :
    (w.act i op).1.Alike (u.act i op).1 ∧ Matches (w.act i op).2.1 (u.act i op).2.1 := by
  have hseat := h.seats i
  obtain ⟨hanswer, hvault, hmedium, hstore⟩ :=
    hseat.store.run op (w.vault (w.seat i).vault) w.medium
  -- everything but the store is the same on the other side
  have hturn : op.run (u.seat i).store (u.vault (u.seat i).vault) u.medium =
      op.run (u.seat i).store (w.vault (w.seat i).vault) w.medium := by
    rw [hseat.vault, h.vault_eq, h.medium]
  refine ⟨?_, ?_, ?_, ?_, fun j => ?_⟩
  · simp only [World.act, hturn]
    exact hanswer
  · simp only [World.act, hturn]
    exact hmedium
  · simp only [World.act, hturn]
    rw [h.vaults, hseat.vault, hvault]
  · rw [length_act, length_act, h.length]
  · rw [seat_act, seat_act, hturn, h.length]
    split
    · exact ⟨hstore, hseat.vault⟩
    · exact h.seats j

theorem Matches.openStore (h : Matches w u) (removal : Removal) (own : Option Vault) :
    Matches (w.openStore removal own) (u.openStore removal own) := by
  refine ⟨?_, ?_, ?_, fun j => ?_⟩
  · rw [medium_openStore, medium_openStore, h.medium]
  · cases own with
    | none => exact h.vaults
    | some own => exact congrArg (· ++ [own]) h.vaults
  · rw [seats_openStore, seats_openStore, List.length_append, List.length_append, h.length]
    rfl
  · rw [seat_openStore, seat_openStore, h.length]
    split
    · exact h.seats j
    · split
      · cases own with
        | none => exact Seat.matches_fresh removal 0
        | some own =>
          rw [newSeat, newSeat, h.vaults]
          exact Seat.matches_fresh removal _
      · exact Seat.matches_fresh .compat 0

theorem Matches.step (h : Matches w u) (e : WorldEvent) :
    (w.step e).1.Alike (u.step e).1 ∧ Matches (w.step e).2.1 (u.step e).2.1 := by
  cases e with
  | act i op => exact h.act i op
  | «open» removal own => exact ⟨rfl, h.openStore removal own⟩
  | vaultFault fault =>
    refine ⟨rfl, h.medium, ?_, h.length, h.seats⟩
    simp only [World.step, sharedVault, h.vault_eq, h.vaults]
  | put key value =>
    simp only [World.step, h.medium]
    split
    · exact ⟨rfl, rfl, h.vaults, h.length, h.seats⟩
    · exact ⟨rfl, rfl, h.vaults, h.length, h.seats⟩
  | change c =>
    simp only [World.step, h.medium]
    refine ⟨?_, rfl, h.vaults, h.length, h.seats⟩
    split <;> rfl

theorem Matches.run (h : Matches w u) (es : List WorldEvent) :
    List.Forall₂ WorldAnswer.Alike (w.answers es) (u.answers es) ∧
      Matches (w.run es) (u.run es) := by
  induction es generalizing w u with
  | nil => exact ⟨.nil, h⟩
  | cons e es ih =>
    obtain ⟨hanswer, hstep⟩ := h.step e
    obtain ⟨hanswers, hrun⟩ := ih hstep
    exact ⟨.cons hanswer hanswers, hrun⟩

/-! ### A restart -/

/-- The world with a fresh store in place of one of its stores. -/
def renew (w : World) (i : Nat) : World := { w with seats := w.seats.set i (w.seat i).renewed }

/-- The world after one of its stores has been replaced by a fresh one, which is synchronized and
then refuses the calls that the other one refused. -/
def restart (w : World) (i : Nat) : World :=
  (w.renew i).run [.act i .synchronize, .act i (.refuse (w.seat i).store.prefs.refusals)]

/-- A restart leaves the vaults and the other stores as they are. -/
theorem restart_frame (w : World) (i : Nat) : (w.restart i).vaults = w.vaults ∧
    (w.restart i).seats.length = w.seats.length ∧ ∀ j ≠ i, (w.restart i).seat j = w.seat j := by
  refine ⟨?_, ?_, fun j hj => ?_⟩
  · refine (vaults_act rfl).trans (vaults_act ?_)
    exact congrArg Turn.vault (StoreOp.run_synchronize ..)
  · exact (length_act ..).trans ((length_act ..).trans List.length_set)
  · refine ((seat_act ..).trans (if_neg fun h => hj h.1)).trans ?_
    refine ((seat_act ..).trans (if_neg fun h => hj h.1)).trans ?_
    exact (getD_set ..).trans (if_neg fun h => hj h.1)

/-- In a restart the fresh store is synchronized on the medium as it is, and then refuses what the
one before it refused. -/
theorem restart_eq {i : Nat} (hi : i < w.seats.length) {z : Sync}
    (hz : ({ removal := (w.seat i).store.removal } : Store).synchronize w.medium = z) :
    ((w.renew i).step (.act i .synchronize)).1 = .store (StoreOp.syncAnswer z.result) ∧
      (w.restart i).medium = z.medium ∧
      (w.restart i).seat i = { w.seat i with store := { z.store with
        prefs := { z.store.prefs with refusals := (w.seat i).store.prefs.refusals } } } := by
  have hrenew : (w.renew i).seat i = (w.seat i).renewed :=
    (getD_set ..).trans (if_pos ⟨rfl, hi⟩)
  have hi₁ : i < (w.renew i).seats.length := by rwa [renew, List.length_set]
  have hi₂ : i < ((w.renew i).act i .synchronize).2.1.seats.length := by rwa [length_act]
  have hturn := StoreOp.run_synchronize ((w.renew i).seat i).store
    ((w.renew i).vault ((w.renew i).seat i).vault) (w.renew i).medium
  have hsync : ((w.renew i).seat i).store.synchronize (w.renew i).medium = z := by
    rw [hrenew]
    exact hz
  rw [hsync] at hturn
  have hanswer := congrArg (fun t => WorldAnswer.store (Turn.answer t)) hturn
  refine ⟨hanswer, congrArg Turn.medium hturn, ?_⟩
  have hseat : ((w.renew i).step (.act i .synchronize)).2.1.seat i =
      { w.seat i with store := z.store } := by
    refine (seat_act ..).trans ((if_pos ⟨rfl, hi₁⟩).trans ?_)
    rw [hturn, hrenew]
    rfl
  refine (seat_act ..).trans ((if_pos ⟨rfl, hi₂⟩).trans ?_)
  rw [hseat]
  rfl

/-- A store that has been synchronized matches the one that a restart puts in its place. -/
theorem matches_restart (hw : w.Sound) (hclosed : w.medium.files.Closed) {i : Nat}
    (hi : i < w.seats.length) (hu : (w.act i .synchronize).2.1 = u)
    (hdone : (w.step (.act i .synchronize)).1 = .store .done)
    (hreload : ∀ ns, (w.seat i).store.isModified ns = false →
      ∃ v, (u.seat i).store.prefs.copy u.medium ns.key = .ok v) :
    ((u.renew i).step (.act i .synchronize)).1 = .store .done ∧ u.Matches (u.restart i) := by
  obtain ⟨y, hy', hy, -, hmedium, hseat⟩ := w.synchronizes_step i
  have hok : y.result = .ok () := hy' ▸ (w.step_synchronize_eq_done i).1 hdone
  have hi' : i < u.seats.length := by rwa [← hu, length_act]
  replace hmedium : u.medium = y.medium := hu ▸ hmedium
  replace hseat : (u.seat i).store = y.store := hu ▸ hseat hi
  -- the fresh store is synchronized where the other one left off
  obtain ⟨z, hz⟩ : ∃ z, ({ removal := y.store.removal } : Store).synchronize y.medium = z :=
    ⟨_, rfl⟩
  rw [hmedium, hseat] at hreload
  obtain ⟨hresult, hsame, hmatch⟩ := hy.matches_fresh (hw i) hclosed hok hreload hz
  rw [← hmedium, ← hseat] at hz
  obtain ⟨hfresh, hrestart, hself⟩ := restart_eq hi' hz
  obtain ⟨hvaults, hlength, hothers⟩ := restart_frame u i
  refine ⟨hfresh.trans (by rw [hresult]; rfl), ?_, hvaults, hlength, fun j => ?_⟩
  · rw [hrestart, hsame, hmedium]
  · by_cases hj : j = i
    · subst hj
      rw [hself]
      rw [← hseat] at hmatch
      exact ⟨hmatch, rfl⟩
    · have hsound : (u.seat j).store.Sound u.medium := hu ▸ hw.act i .synchronize j
      rw [hothers j hj]
      exact ⟨hsound.matches_self, rfl⟩

/-- A restart does not show: after a synchronization that is done, with every namespace that was not
changed read again, a fresh store in the place of the one that was synchronized makes no difference
to the answers to any later events, to the medium, to the vaults and to what is loaded and
marked. -/
theorem answers_restart (hw : w.Reachable) {i : Nat} (hi : i < w.seats.length)
    (hu : (w.step (.act i .synchronize)).2.1 = u)
    (hdone : (w.step (.act i .synchronize)).1 = .store .done)
    (hreload : ∀ ns, (w.seat i).store.isModified ns = false →
      ∃ v, (u.seat i).store.prefs.copy u.medium ns.key = .ok v) :
    ((u.renew i).step (.act i .synchronize)).1 = .store .done ∧
      ∀ es, List.Forall₂ WorldAnswer.Alike (u.answers es) ((u.restart i).answers es) ∧
        ((u.restart i).run es).medium = (u.run es).medium ∧
        ((u.restart i).run es).vaults = (u.run es).vaults ∧
        ∀ j ns,
          ((u.run es).seat j).store.isLoaded ns = (((u.restart i).run es).seat j).store.isLoaded ns ∧
          ((u.run es).seat j).store.isModified ns =
            (((u.restart i).run es).seat j).store.isModified ns := by
  obtain ⟨hfresh, hmatch⟩ := matches_restart hw.sound hw.closed hi hu hdone hreload
  refine ⟨hfresh, fun es => ?_⟩
  obtain ⟨hanswers, hrun⟩ := hmatch.run es
  refine ⟨hanswers, hrun.medium, hrun.vaults, fun j ns => ?_⟩
  have hcache := (hrun.seats j).store.alike.cache
  exact ⟨hcache.isPresent_eq ns, hcache.isModified_eq ns⟩

/-- A store with a fresh portal, which has no authentication tag until it is read back. -/
def freshPortal : World := (start .memory {} .strict).run [.act 0 (.portal "t" "a" true)]

/-- The portal before a restart is not the one after it, and yet nothing shows. -/
theorem answers_restart_freshPortal :
    let u := (freshPortal.step (.act 0 .synchronize)).2.1
    (u.seat 0).store.portal? "t" "a" ≠ ((u.restart 0).seat 0).store.portal? "t" "a" ∧
      ∀ es, List.Forall₂ WorldAnswer.Alike (u.answers es) ((u.restart 0).answers es) := by
  have hw : freshPortal.Reachable := ⟨.memory, {}, .strict, _, FileTree.closed_empty, rfl⟩
  have hrestart := answers_restart hw (i := 0) (by decide) rfl rfl fun ns hns => by
    cases ns with
    | targets => cases hns
    | initiator | discovery => exact ⟨none, rfl⟩
  exact ⟨by decide, fun es => (hrestart.2 es).1⟩

end World

end InitiatorStore
