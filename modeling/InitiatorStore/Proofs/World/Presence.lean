import InitiatorStore.Proofs.Store.Presence
import InitiatorStore.Proofs.World.Marks
import InitiatorStore.Proofs.World.Synchronize

/-!
# Which keys are removed

Stores remove a key from the document in one case only: a store that has cleared what was
discovered commits that, and has not discovered anything since (`World.keysSound_run`).  The keys of
the targets and of the initiator stay for good, whatever fails and in whatever order the stores take
their turns.

A synchronization removes the key of a namespace that is marked and has no value, so this is about
what is marked and has no value: never the targets or the initiator (`World.backed_run`), and what
was discovered just if the last change of it is that it was cleared
(`World.tellsDiscovery_run`).
-/

namespace InitiatorStore

namespace World

/-! ### What a store has not written of discovery -/

/-- The last change of what was discovered that a store has not written after an event, given the
last one before it. -/
def pendingDiscovery? (w : World) (i : Nat) (last : Option DiscoveryChange) :
    WorldEvent → Option DiscoveryChange
  | .act j op =>
    if j = i ∧ i < w.seats.length then
      match w.settled? i (.act i op) with
      | some _ => none
      | none => op.discoveryChange?.or last
    else last
  | _ => last

/-- The last change of what was discovered that a store has not written after some events. -/
def lastDiscovery? (w : World) (i : Nat) (last : Option DiscoveryChange) :
    List WorldEvent → Option DiscoveryChange
  | [] => last
  | e :: es => lastDiscovery? (w.step e).2.1 i (w.pendingDiscovery? i last e) es

/-- The document can be read and has the key of a namespace. -/
def HasKey (w : World) (ns : Namespace) : Prop :=
  ∃ d, w.medium.read = .ok d ∧ d.contains ns.key = true

/-- What the stores may remove from the document, given for each store the last change of what was
discovered that it has not written. -/
structure KeysSound (w : World) (last : Nat → Option DiscoveryChange) : Prop where
  /-- The targets and the initiator have a value if they are marked. -/
  present : ∀ i ns, ns ≠ .discovery → (w.seat i).store.isModified ns = true →
    (w.seat i).store.isLoaded ns = true
  /-- What was discovered, if it is marked, is absent just if it was cleared last. -/
  absent : ∀ i, (w.seat i).store.isModified .discovery = true →
    ((w.seat i).store.isLoaded .discovery = false ↔ last i = some .cleared)
  /-- The keys of the targets and of the initiator stay. -/
  kept : ∀ ns, ns ≠ .discovery → w.HasKey ns →
    ∀ es, (∀ e ∈ es, e.isForeign = false) → (w.run es).HasKey ns
  /-- The key of what was discovered stays until a store that has cleared it last is
  synchronized. -/
  removed : w.HasKey .discovery → ∀ e, e.isForeign = false →
    (w.step e).2.1.HasKey .discovery ∨
      ∃ i, e = .act i .synchronize ∧ (w.step e).1 = .store .done ∧
        (w.seat i).store.isModified .discovery = true ∧ last i = some .cleared

variable {w : World} {i : Nat} {e : WorldEvent} {ns : Namespace} {last : Option DiscoveryChange}

/-! ### One event -/

theorem backed_step (h : ∀ i, (w.seat i).store.cache.Backed) (e : WorldEvent) (i : Nat) :
    ((w.step e).2.1.seat i).store.cache.Backed := by
  rcases w.store_step i e with ⟨op, rfl, -, hstore⟩ | ⟨-, hcache⟩
  · rw [hstore]
    exact StoreOp.backed_run op (h i)
  · rw [hcache]
    exact h i

/-- A store that is settled by an event has no marks. -/
theorem isModified_of_settled? {c : Cache} (hi : i < w.seats.length)
    (h : w.settled? i e = some c) (ns : Namespace) :
    ((w.step e).2.1.seat i).store.isModified ns = false := by
  have hsettled : ¬ w.settled? i e = none := by simp [h]
  rw [settled?_eq_none_iff, not_not] at hsettled
  obtain ⟨rfl, hdone⟩ := hsettled
  obtain ⟨y, rfl, hy, -, -, hseat⟩ := w.synchronizes_step i
  rw [hseat hi]
  exact hy.isModified_of_ok ((w.step_synchronize_eq_done i).1 hdone) ns

theorem tellsDiscovery_step (h : (w.seat i).store.TellsDiscovery last) (e : WorldEvent) :
    ((w.step e).2.1.seat i).store.TellsDiscovery (w.pendingDiscovery? i last e) := by
  by_cases hact : ∃ op, e = .act i op ∧ i < w.seats.length
  · obtain ⟨op, rfl, hi⟩ := hact
    rw [pendingDiscovery?, if_pos ⟨rfl, hi⟩]
    cases hsettled : w.settled? i (.act i op) with
    | some c => exact isModified_of_settled? hi hsettled .discovery
    | none =>
      by_cases hop : op = .synchronize
      · subst hop
        exact h.of_cache_eq (cache_of_settled?_eq_none hsettled)
      · have hstore : ((w.step (.act i op)).2.1.seat i).store =
            (op.run (w.seat i).store (w.vault (w.seat i).vault) w.medium).store := by
          rw [step_act, seat_act, if_pos ⟨rfl, hi⟩]
        rw [hstore]
        exact StoreOp.tellsDiscovery_run hop h
  · have hpending : w.pendingDiscovery? i last e = last := by
      cases e with
      | act j op =>
        refine if_neg ?_
        rintro ⟨rfl, hi⟩
        exact hact ⟨op, rfl, hi⟩
      | _ => rfl
    rw [hpending]
    rcases w.store_step i e with ⟨op, rfl, hi, -⟩ | ⟨-, hcache⟩
    · exact absurd ⟨op, rfl, hi⟩ hact
    · exact h.of_cache_eq hcache

/-! ### Keys -/

theorem HasKey.exists_holds (hclosed : w.medium.files.Closed) (h : w.HasKey ns) :
    ∃ n, w.Holds ns (some n) := by
  obtain ⟨d, hread, hkey⟩ := h
  obtain ⟨n, hn⟩ := Option.isSome_iff_exists.1 hkey
  exact ⟨n, Medium.grounded_of_get? hclosed hread hn, d, hread, hn⟩

theorem Holds.hasKey {n : Node} (h : w.Holds ns (some n)) : w.HasKey ns := by
  obtain ⟨-, d, hread, hn⟩ := h
  exact ⟨d, hread, Option.isSome_iff_exists.2 ⟨n, hn⟩⟩

/-- A key stays, or a store commits that its namespace has no value. -/
theorem Sound.hasKey_step (hw : w.Sound) (hclosed : w.medium.files.Closed)
    (he : e.isForeign = false) (h : w.HasKey ns) :
    (w.step e).2.1.HasKey ns ∨ w.flush? ns e = some none := by
  obtain ⟨n, hn⟩ := h.exists_holds hclosed
  cases hflush : w.flush? ns e with
  | none => exact .inl (hw.holds_step hclosed he hflush hn).hasKey
  | some v =>
    cases v with
    | none => exact .inr rfl
    | some v => exact .inl (hw.holds_flush hclosed hflush).hasKey

/-- What commits that a namespace has no value is a synchronization of a store that has it marked
and absent. -/
theorem absent_of_flush? (h : w.flush? ns e = some none) : ∃ i, e = .act i .synchronize ∧
    (w.step e).1 = .store .done ∧ (w.seat i).store.isModified ns = true ∧
    (w.seat i).store.isLoaded ns = false := by
  obtain ⟨i, rfl, hok, hns, hnode⟩ := flush?_eq_some.1 h
  refine ⟨i, rfl, (w.step_synchronize_eq_done i).2 hok, hns, ?_⟩
  rw [Store.isLoaded, ← Cache.isSome_node?, hnode]
  rfl

/-! ### Runs -/

theorem backed_run (h : ∀ i, (w.seat i).store.cache.Backed) (es : List WorldEvent) (i : Nat) :
    ((w.run es).seat i).store.cache.Backed := by
  induction es generalizing w with
  | nil => exact h i
  | cons e es ih => exact ih (backed_step h e)

theorem tellsDiscovery_run (h : (w.seat i).store.TellsDiscovery last) (es : List WorldEvent) :
    ((w.run es).seat i).store.TellsDiscovery (w.lastDiscovery? i last es) := by
  induction es generalizing w last with
  | nil => exact h
  | cons e es ih => exact ih (tellsDiscovery_step h e)

theorem Sound.hasKey_run (hw : w.Sound) (hclosed : w.medium.files.Closed)
    (hbacked : ∀ i, (w.seat i).store.cache.Backed) (hns : ns ≠ .discovery) {es : List WorldEvent}
    (hes : ∀ e ∈ es, e.isForeign = false) (h : w.HasKey ns) : (w.run es).HasKey ns := by
  induction es generalizing w with
  | nil => exact h
  | cons e es ih =>
    have hrest : ∀ e ∈ es, e.isForeign = false := fun e he => hes e (List.mem_cons_of_mem _ he)
    rcases hw.hasKey_step hclosed (hes e (List.mem_cons_self ..)) h with hstep | hflush
    · exact ih (hw.step e) (closed_step hclosed e) (backed_step hbacked e) hrest hstep
    · obtain ⟨i, -, -, hmarked, habsent⟩ := absent_of_flush? hflush
      exact absurd (habsent.symm.trans ((hbacked i).isPresent hns hmarked)) Bool.false_ne_true

/-- Whatever the stores do in whatever order, and whatever fails, the keys of the targets and of the
initiator stay in the document, and the key of what was discovered is removed by the synchronization
of a store that has cleared it last and has not written that yet, and by nothing else. -/
theorem keysSound_run {medium : Medium} (hclosed : medium.files.Closed) (vault : Vault)
    (removal : Removal) (es : List WorldEvent) :
    ((start medium vault removal).run es).KeysSound
      fun i => (start medium vault removal).lastDiscovery? i none es := by
  have hbacked : ∀ i, (((start medium vault removal).run es).seat i).store.cache.Backed :=
    backed_run (fun i => by cases i <;> exact Cache.backed_empty) es
  have htells : ∀ i, (((start medium vault removal).run es).seat i).store.TellsDiscovery
      ((start medium vault removal).lastDiscovery? i none es) :=
    fun i => tellsDiscovery_run (by cases i <;> rfl) es
  have hsound := (sound_start medium vault removal).run es
  have hfiles := closed_run (w := start medium vault removal) hclosed es
  refine ⟨fun i ns hns => (hbacked i).isPresent hns, fun i => (htells i).isLoaded_eq_false_iff,
    fun ns hns hkey later hlater => hsound.hasKey_run hfiles hbacked hns hlater hkey,
    fun hkey e he => ?_⟩
  refine (hsound.hasKey_step hfiles he hkey).imp_right fun hflush => ?_
  obtain ⟨i, rfl, hdone, hmarked, habsent⟩ := absent_of_flush? hflush
  exact ⟨i, rfl, hdone, hmarked, ((htells i).isLoaded_eq_false_iff hmarked).1 habsent⟩

/-- Two stores on an empty medium in memory, after one of them has written a target and a record
that was discovered, and the other has cleared what was discovered. -/
def cleared : List WorldEvent :=
  [.open .compat none, .act 0 (.setTarget { name := "t" }),
    .act 0 (.addDiscovery {}), .act 0 .synchronize,
    .act 1 .clearDiscovery]

theorem keysSound_run_cleared :
    (start .memory {} .compat).medium.files.Closed ∧
    ((start .memory {} .compat).run cleared).KeysSound
      (fun i => (start .memory {} .compat).lastDiscovery? i none cleared) ∧
    ((start .memory {} .compat).run cleared).HasKey .targets ∧
    ((start .memory {} .compat).run cleared).HasKey .discovery ∧
    ¬ (((start .memory {} .compat).run cleared).step
      (.act 1 .synchronize)).2.1.HasKey .discovery ∧
    (start .memory {} .compat).lastDiscovery? 1 none cleared = some .cleared := by
  refine ⟨FileTree.closed_empty, keysSound_run FileTree.closed_empty {} .compat cleared,
    ⟨_, rfl, by decide⟩, ⟨_, rfl, by decide⟩, ?_, by decide⟩
  rintro ⟨d, hread, hkey⟩
  obtain rfl := Except.ok.inj hread
  exact absurd hkey (by decide)

end World

end InitiatorStore
