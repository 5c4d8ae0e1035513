import InitiatorStore.Proofs.Store.Vault
import InitiatorStore.Proofs.World.Run

/-!
# Secrets stay in the vaults

What the vaults hold, which of them are out of order and when, and the credentials that are set do
not show in preferences.  Two runs of the same events that differ in nothing else go through the
same stores and the same medium, and give the same answers but for those that come from a vault
(`World.noninterference`).

The argument is about one run at a time.  Redaction puts an empty vault in order in the place of
every vault, and blank credentials in the place of all that are set.  It commutes with every event
(`World.redact_step`), so what is left of a world by it depends on what is left of the events.
-/

namespace InitiatorStore

/-! ### Redaction -/

namespace WorldEvent

/-- An event with blank credentials, and with a vault that is empty and in order where it has
one. -/
def redact : WorldEvent → WorldEvent
  | .act i op => .act i op.redact
  | .open removal own => .open removal (own.map fun _ => {})
  | .vaultFault _ => .vaultFault none
  | .put key value => .put key value
  | .change c => .change c

/-- Whether the answer to an event tells about a vault. -/
def asksVault : WorldEvent → Bool
  | .act _ op => op.asksVault
  | _ => false

@[simp] theorem asksVault_redact (e : WorldEvent) : e.redact.asksVault = e.asksVault := by
  cases e with
  | act i op => exact op.asksVault_redact
  | _ => rfl

end WorldEvent

namespace World

/-- A world with vaults that are empty and in order. -/
def redact (w : World) : World := { w with vaults := List.replicate w.vaults.length {} }

variable {w u : World} {e f : WorldEvent}

theorem redact_eq_redact_iff : w.redact = u.redact ↔
    w.medium = u.medium ∧ w.vaults.length = u.vaults.length ∧ w.seats = u.seats := by
  simp [redact, World.mk.injEq]

/-- Redaction commutes with every event. -/
theorem redact_step (w : World) (e : WorldEvent) :
    (w.step e).2.1.redact = (w.redact.step e.redact).2.1.redact := by
  rw [redact_eq_redact_iff]
  cases e with
  | act i op =>
    obtain ⟨hstore, hmedium, -⟩ := op.run_redact (w.seat i).store (w.vault (w.seat i).vault)
      (w.redact.vault (w.seat i).vault) w.medium
    refine ⟨hmedium.symm, ?_, ?_⟩
    · simp [step, act, WorldEvent.redact, redact]
    · exact congrArg (fun s => w.seats.set i { w.seat i with store := s }) hstore.symm
  | «open» removal own => cases own <;> simp [step, openStore, WorldEvent.redact, redact]
  | vaultFault fault => simp [step, WorldEvent.redact, redact]
  | put key value =>
    simp only [step, WorldEvent.redact, redact]
    split <;> simp
  | change c => simp [step, WorldEvent.redact, redact]

/-! ### What is shown -/

/-- The answer to an event, if it does not come from a vault. -/
def shown? (w : World) (e : WorldEvent) : Option WorldAnswer :=
  if e.asksVault then none else some (w.step e).1

theorem shown?_redact (w : World) (e : WorldEvent) : w.redact.shown? e.redact = w.shown? e := by
  simp only [shown?, WorldEvent.asksVault_redact]
  split
  · rfl
  · next hasks =>
    refine congrArg some ?_
    cases e with
    | act i op =>
      obtain ⟨-, -, hanswer⟩ := op.run_redact (w.seat i).store (w.vault (w.seat i).vault)
        (w.redact.vault (w.seat i).vault) w.medium
      exact congrArg WorldAnswer.store (hanswer (Bool.eq_false_iff.2 hasks))
    | put key value =>
      simp only [step, WorldEvent.redact, redact]
      split <;> rfl
    | _ => rfl

/-! ### Two runs -/

/-- What is out of order in the vaults, by their places. -/
abbrev Faults := Nat → Option VaultFault

/-- A world with the vaults out of order as told. -/
def withFaults (w : World) (faults : Faults) : World :=
  { w with vaults := w.vaults.mapIdx fun i v => { v with fault := faults i } }

/-- A world after some events, each of which finds the vaults out of order as told. -/
def runAmid (w : World) : List (Faults × WorldEvent) → World
  | [] => w
  | (faults, e) :: es => runAmid ((w.withFaults faults).step e).2.1 es

/-- The answers to some events, each of which finds the vaults out of order as told; those that
come from a vault are left out. -/
def shownAmid (w : World) : List (Faults × WorldEvent) → List (Option WorldAnswer)
  | [] => []
  | (faults, e) :: es =>
    (w.withFaults faults).shown? e :: shownAmid ((w.withFaults faults).step e).2.1 es

theorem redact_withFaults (w : World) (faults : Faults) :
    (w.withFaults faults).redact = w.redact := by
  simp [redact, withFaults]

/-- Events that differ in credentials and in vaults make worlds of the same redaction out of worlds
of the same redaction, and show the same. -/
theorem step_congr (h : w.redact = u.redact) (he : e.redact = f.redact) (faults faults' : Faults) :
    (w.withFaults faults).shown? e = (u.withFaults faults').shown? f ∧
      ((w.withFaults faults).step e).2.1.redact = ((u.withFaults faults').step f).2.1.redact := by
  have hworld : (w.withFaults faults).redact = (u.withFaults faults').redact := by
    rw [redact_withFaults, redact_withFaults, h]
  constructor
  · rw [← shown?_redact, hworld, he, shown?_redact]
  · rw [redact_step, hworld, he, ← redact_step]

theorem runAmid_congr (h : w.redact = u.redact) {es fs : List (Faults × WorldEvent)}
    (hes : es.map (·.2.redact) = fs.map (·.2.redact)) :
    w.shownAmid es = u.shownAmid fs ∧ (w.runAmid es).redact = (u.runAmid fs).redact := by
  induction es generalizing w u fs with
  | nil =>
    obtain rfl : fs = [] := List.map_eq_nil_iff.1 hes.symm
    exact ⟨rfl, h⟩
  | cons e es ih =>
    cases fs with
    | nil => cases hes
    | cons f fs =>
      obtain ⟨hhead, htail⟩ := List.cons.inj hes
      obtain ⟨hshown, hstep⟩ := step_congr h hhead e.1 f.1
      obtain ⟨hrest, hrun⟩ := ih hstep htail
      exact ⟨congrArg₂ List.cons hshown hrest, hrun⟩

/-- Two runs that differ in the credentials that are set, in what the vaults hold and in what is out
of order with them at each event give the same answers, but for those that come from a vault, and
have the same medium and the same stores after every event: the same caches with the same marks, and
the same staged writes. -/
theorem noninterference (h : w.redact = u.redact) {es fs : List (Faults × WorldEvent)}
    (hes : es.map (·.2.redact) = fs.map (·.2.redact)) :
    w.shownAmid es = u.shownAmid fs ∧
      ∀ n, (w.runAmid (es.take n)).medium = (u.runAmid (fs.take n)).medium ∧
        (w.runAmid (es.take n)).seats = (u.runAmid (fs.take n)).seats := by
  refine ⟨(runAmid_congr h hes).1, fun n => ?_⟩
  have htake : (es.take n).map (·.2.redact) = (fs.take n).map (·.2.redact) := by
    rw [List.map_take, List.map_take, hes]
  obtain ⟨hmedium, -, hseats⟩ := redact_eq_redact_iff.1 (runAmid_congr h htake).2
  exact ⟨hmedium, hseats⟩

/-- A run that sets the credentials of a target and commits, amid given faults. -/
def settingAmid (faults : Faults) (c : Credentials) : List (Faults × WorldEvent) :=
  [(faults, .act 0 (.setTargetAuth "t" (.chap c))), (faults, .act 0 .synchronize)]

/-- A secret that is stored, and another one that the vault of another world refuses, leave the same
preferences. -/
theorem noninterference_refused :
    let w := start .memory {} .compat
    let u := start .memory { writes := 1, entries := Entries.ofList [("t", ⟨"eve", "old"⟩)] } .compat
    let es := settingAmid (fun _ => none) ⟨"alice", "one"⟩
    let fs := settingAmid (fun _ => some .backend) ⟨"bob", "two"⟩
    w.redact = u.redact ∧ es.map (·.2.redact) = fs.map (·.2.redact) ∧
      (w.runAmid es).vaults ≠ (u.runAmid fs).vaults ∧
      (w.runAmid es).medium = (u.runAmid fs).medium ∧
      (w.runAmid es).seats = (u.runAmid fs).seats ∧ w.shownAmid es = u.shownAmid fs := by
  intro w u es fs
  have hworlds : w.redact = u.redact := rfl
  have hevents : es.map (·.2.redact) = fs.map (·.2.redact) := rfl
  obtain ⟨hshown, hrun⟩ := noninterference hworlds hevents
  exact ⟨hworlds, hevents, by decide, (hrun 2).1, (hrun 2).2, hshown⟩

end World

end InitiatorStore
