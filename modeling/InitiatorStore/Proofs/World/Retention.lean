import InitiatorStore.Proofs.Store.Targets
import InitiatorStore.Proofs.World.Synchronize

/-!
# Stored targets are not lost

Once a store has brought the targets into agreement with preferences, by writing them or by reading
them, it loses none that is stored: nobody else writing, a target of the document is there after
every event until this store removes it by name, whatever fails (`World.holdsTarget_run`).

A synchronization that fails to read the targets succeeds and leaves them as they are cached.  If
this happens to a store that has not read them before, its cache takes the place of the document
with the next change (`World.not_holdsTarget_unread`).

The invariant is that the target is cached by the store and is held by the document
(`World.Retains`): the cache is what a later synchronization writes, and the document is what it
reads.
-/

namespace InitiatorStore

namespace Store

variable {s : Store} {m : Medium} {y : Sync} {d : Document} {name : String}

/-- After a synchronization that wrote the targets or could read them, those that are cached are the
ones that the document holds. -/
theorem Synchronizes.containsTarget_eq (h : Synchronizes s m y) (hs : s.Sound m)
    (hclosed : m.files.Closed) (hok : y.result = .ok ())
    (hread : s.isModified .targets = true ∨
      ∃ v, y.store.prefs.copy y.medium Namespace.targets.key = .ok v)
    (hd : y.medium.read = .ok d) :
    y.store.containsTarget name = holdsTarget (d.get? Namespace.targets.key) name := by
  cases hmodified : s.isModified .targets with
  | true =>
    have hagree : y.store.cache.node? .targets = s.cache.node? .targets :=
      (h.agree_of_ok hok hmodified).node?_eq
    obtain ⟨⟨d₀, hd₀⟩, -⟩ := h.exists_read_of_ok hclosed hok hmodified
    obtain ⟨d', hd', hflushed⟩ := h.read_of_ok hs.covered hs.fits hd₀ hok
    obtain rfl : d' = d := Except.ok.inj (hd'.symm.trans hd)
    rw [hflushed.written .targets hmodified, ← hagree]
    exact (Cache.holdsTarget_node? ..).symm
  | false =>
    rcases hread with hread | ⟨v, hv⟩
    · rw [hmodified] at hread
      cases hread
    · obtain ⟨d', hd', rfl⟩ := Prefs.copy_eq_ok (h.staged_of_ok hok) hv
      obtain rfl : d' = d := Except.ok.inj (hd'.symm.trans hd)
      have hload := (h.agree_copy_of_ok hok hmodified).1 _ hv
      rw [containsTarget, target?, hload.target?_eq]
      exact Cache.isSome_target?_load ..

/-- A target that is cached, and held by the document afterwards, is cached after a synchronization
too, whatever it comes to. -/
theorem Synchronizes.containsTarget (h : Synchronizes s m y)
    (hcached : s.containsTarget name = true)
    (hheld : ∀ d, y.medium.read = .ok d → holdsTarget (d.get? Namespace.targets.key) name = true) :
    y.store.containsTarget name = true := by
  unfold Store.containsTarget target?
  rcases h.agree_cases .targets with hkept | ⟨d, hread, hload⟩
  · rw [hkept.target?_eq]
    exact hcached
  · rw [hload.target?_eq]
    exact (Cache.isSome_target?_load ..).trans (hheld d hread)

end Store

/-- Whether an event is no removal of a target by a store, and no write or change of files by anyone
else. -/
def WorldEvent.spares (i : Nat) (name : String) : WorldEvent → Bool
  | .act j op => if j = i then op ≠ .removeTarget name else op ≠ .synchronize
  | .put .. | .change .. => false
  | _ => true

namespace World

/-- A store has a target cached, and the document holds it. -/
structure Retains (w : World) (i : Nat) (name : String) : Prop where
  cached : (w.seat i).store.containsTarget name = true
  committed : ∃ value, w.Holds .targets value ∧ holdsTarget value name = true

variable {w u : World} {i : Nat} {name : String} {e : WorldEvent}

theorem Retains.lt_length (h : w.Retains i name) : i < w.seats.length := by
  by_contra hi
  have hcached := h.cached
  rw [seat_of_length_le (Nat.not_lt.1 hi)] at hcached
  cases hcached

/-- The document still holds the target after an event that spares it. -/
theorem Retains.committed_step (h : w.Retains i name) (hw : w.Sound)
    (hclosed : w.medium.files.Closed) (he : e.spares i name = true) :
    ∃ value, (w.step e).2.1.Holds .targets value ∧ holdsTarget value name = true := by
  obtain ⟨value, hholds, hvalue⟩ := h.committed
  cases hflush : w.flush? .targets e with
  | some value' =>
    refine ⟨value', hw.holds_flush hclosed hflush, ?_⟩
    obtain ⟨j, rfl, -, -, rfl⟩ := flush?_eq_some.1 hflush
    -- the store that writes is the one that has the target cached
    by_cases hj : j = i
    · subst hj
      exact (Cache.holdsTarget_node? ..).trans h.cached
    · simp [WorldEvent.spares, hj] at he
  | none =>
    have hforeign : e.isForeign = false := by
      cases e with
      | put | change => cases he
      | _ => rfl
    exact ⟨value, hw.holds_step hclosed hforeign hflush hholds, hvalue⟩

theorem Retains.step (h : w.Retains i name) (hw : w.Sound) (hclosed : w.medium.files.Closed)
    (he : e.spares i name = true) : (w.step e).2.1.Retains i name := by
  have hcommitted := h.committed_step hw hclosed he
  refine ⟨?_, hcommitted⟩
  cases e with
  | act j op =>
    rw [step_act, seat_act]
    split
    · next hij =>
      obtain ⟨rfl, hi⟩ := hij
      by_cases hop : op = .synchronize
      · subst hop
        obtain ⟨y, rfl, hy, -, hmedium, -⟩ := w.synchronizes_step i
        rw [StoreOp.run_synchronize]
        refine hy.containsTarget h.cached fun d hd => ?_
        obtain ⟨value, ⟨-, d', hd', rfl⟩, hvalue⟩ := hcommitted
        rw [hmedium, hd] at hd'
        obtain rfl : d = d' := Except.ok.inj hd'
        exact hvalue
      · have hremove : op ≠ .removeTarget name := by simpa [WorldEvent.spares] using he
        exact StoreOp.containsTarget_run hop hremove h.cached
    · exact h.cached
  | «open» removal own =>
    rw [step_open, seat_openStore, if_pos h.lt_length]
    exact h.cached
  | vaultFault fault => exact h.cached
  | put | change => cases he

theorem Retains.run (h : w.Retains i name) (hw : w.Sound) (hclosed : w.medium.files.Closed)
    {es : List WorldEvent} (hes : ∀ e ∈ es, e.spares i name = true) :
    (w.run es).Retains i name := by
  induction es generalizing w with
  | nil => exact h
  | cons e es ih =>
    have he := hes e (List.mem_cons_self ..)
    have hrest : ∀ e ∈ es, e.spares i name = true := fun e he => hes e (List.mem_cons_of_mem _ he)
    exact ih (h.step hw hclosed he) (hw.step e) (closed_step hclosed e) hrest

/-- After a synchronization that wrote the targets or could read them, the targets of the document
are retained. -/
theorem retains_synchronize (hw : w.Sound) (hclosed : w.medium.files.Closed)
    (hi : i < w.seats.length) (hu : (w.step (.act i .synchronize)).2.1 = u)
    (hdone : (w.step (.act i .synchronize)).1 = .store .done)
    (hread : (w.seat i).store.isModified .targets = true ∨
      ∃ v, (u.seat i).store.prefs.copy u.medium Namespace.targets.key = .ok v) {d : Document}
    (hd : u.medium.read = .ok d) (hname : holdsTarget (d.get? Namespace.targets.key) name = true) :
    u.Retains i name := by
  have hclosed' : u.medium.files.Closed := hu ▸ closed_step hclosed _
  have hok := (w.step_synchronize_eq_done i).1 hdone
  obtain ⟨y, rfl, hy, -, hmedium, hseat⟩ := w.synchronizes_step i
  have hstore := hseat hi
  rw [hu] at hmedium hstore
  rw [hmedium, hstore] at hread
  refine ⟨?_, _, ⟨?_, d, hd, rfl⟩, hname⟩
  · rw [hstore]
    exact (hy.containsTarget_eq (hw i) hclosed hok hread (hmedium ▸ hd)).trans hname
  · cases hn : d.get? Namespace.targets.key with
    | none =>
      rw [hn] at hname
      cases hname
    | some n => exact Medium.grounded_of_get? hclosed' hd hn

/-- Once a synchronization of a store is done that wrote the targets or could read them, each target
of the document stays there, as long as nobody else writes and the store does not remove it. -/
theorem holdsTarget_run (hw : w.Reachable) (hi : i < w.seats.length)
    (hu : (w.step (.act i .synchronize)).2.1 = u)
    (hdone : (w.step (.act i .synchronize)).1 = .store .done)
    (hread : (w.seat i).store.isModified .targets = true ∨
      ∃ v, (u.seat i).store.prefs.copy u.medium Namespace.targets.key = .ok v) {d : Document}
    (hd : u.medium.read = .ok d) (hname : holdsTarget (d.get? Namespace.targets.key) name = true)
    {es : List WorldEvent} (hes : ∀ e ∈ es, e.spares i name = true) :
    ∃ d', (u.run es).medium.read = .ok d' ∧
      holdsTarget (d'.get? Namespace.targets.key) name = true := by
  have hstart := retains_synchronize hw.sound hw.closed hi hu hdone hread hd hname
  have hsound : u.Sound := hu ▸ hw.sound.step _
  have hclosed : u.medium.files.Closed := hu ▸ closed_step hw.closed _
  obtain ⟨value, ⟨-, d', hd', rfl⟩, hvalue⟩ := (hstart.run hsound hclosed hes).committed
  exact ⟨d', hd', hvalue⟩

/-- A store that has just been opened on a document with a target. -/
def stored : World :=
  start ⟨.memory (Entries.ofList [("Target Nodes", Node.ofList [("a", Node.ofList [])])]), {}⟩ {}
    .compat

/-- A store that has read its targets keeps them when it cannot read them later. -/
theorem holdsTarget_run_refused :
    let u := (stored.step (.act 0 .synchronize)).2.1
    let es := [.act 0 (.refuse { copy := ["Target Nodes"] }), .act 0 .synchronize,
      .act 0 (.setTarget { name := "b" }), .act 0 .synchronize]
    stored.Reachable ∧ (stored.step (.act 0 .synchronize)).1 = .store .done ∧
      (∀ e ∈ es, e.spares 0 "a" = true) ∧
      ∃ d, (u.run es).medium.read = .ok d ∧ holdsTarget (d.get? "Target Nodes") "a" = true := by
  intro u es
  have hw : stored.Reachable := ⟨_, {}, .compat, [], FileTree.closed_empty, rfl⟩
  have hes : ∀ e ∈ es, e.spares 0 "a" = true := by decide
  exact ⟨hw, rfl, hes, holdsTarget_run hw (by decide) rfl rfl (.inr ⟨_, rfl⟩) rfl rfl hes⟩

/-- A store that refuses to copy the targets. -/
def unread : World := stored.run [.act 0 (.refuse { copy := ["Target Nodes"] })]

/-- A store that could not read the targets when it was first synchronized drops them with its next
change. -/
theorem not_holdsTarget_unread :
    let u := (unread.step (.act 0 .synchronize)).2.1
    let es := [.act 0 (.setTarget { name := "b" }), .act 0 .synchronize]
    unread.Reachable ∧ (unread.step (.act 0 .synchronize)).1 = .store .done ∧
      (∃ d, u.medium.read = .ok d ∧ holdsTarget (d.get? "Target Nodes") "a" = true) ∧
      (∀ e ∈ es, e.spares 0 "a" = true) ∧ u.answers es = [.store .done, .store .done] ∧
      ∃ d, (u.run es).medium.read = .ok d ∧ holdsTarget (d.get? "Target Nodes") "a" = false := by
  intro u es
  have hmedium : (u.run es).medium = ⟨.memory (Entries.ofList [("Target Nodes",
      Node.ofList [("b", Node.ofList [("Target Data", Node.ofList [("Name", .scalar "b")])])])]),
      {}⟩ := by
    decide
  have hw : unread.Reachable := ⟨_, {}, .compat, _, FileTree.closed_empty, rfl⟩
  refine ⟨hw, rfl, ⟨_, rfl, rfl⟩, by decide, rfl, ?_⟩
  rw [hmedium]
  exact ⟨_, rfl, by decide⟩

end World

end InitiatorStore
