import InitiatorStore.Proofs.Store.Removal
import InitiatorStore.Proofs.Store.Values
import InitiatorStore.Proofs.World.Synchronize

/-!
# Removals among several stores

A target or a portal that a store removes is gone from the document once this store is synchronized,
and from each store that reads the targets again, until an operation makes it; nobody else must
write the targets (`World.removed_run`).

Before the synchronization the store that has removed it has the targets marked, so that it does not
read what it has removed (`World.Leaving`).  After the synchronization the document lacks it, and
what is read of the document does (`World.Gone`).
-/

namespace InitiatorStore

namespace World

/-! ### Runs with one writer -/

/-- Whether a store reads the targets again when it is synchronized. -/
def rereads (w : World) (j : Nat) : Bool :=
  match ((w.seat j).store.synchronize w.medium).result with
  | .ok _ => j < w.seats.length && !(w.seat j).store.isModified .targets &&
      !(w.seat j).store.prefs.refusals.copy.contains Namespace.targets.key
  | .error _ => false

/-- The stores that are told that a level is missing, after an event: one that reads the targets
again has been told, and one that makes the level has not. -/
def toldBy (w : World) (l : Level) (js : List Nat) : WorldEvent → List Nat
  | .act j op =>
    if op.makes l then js.filter (· ≠ j)
    else if op = .synchronize ∧ w.rereads j then j :: js else js
  | _ => js

/-- The stores that are told that a level is missing, after some events. -/
def told (w : World) (l : Level) (js : List Nat) : List WorldEvent → List Nat
  | [] => js
  | e :: es => told (w.step e).2.1 l (w.toldBy l js e) es

/-- In an event nobody but one store writes the targets, and it does not make a level. -/
structure OneWriter (w : World) (i : Nat) (l : Level) (e : WorldEvent) : Prop where
  foreign : e.isForeign = false
  flush : ∀ v, w.flush? .targets e = some v → e = .act i .synchronize
  makes : ∀ op, e = .act i op → op.makes l = false

/-- In the course of some events nobody but one store writes the targets, and it does not make a
level. -/
def SoleWriter (w : World) (i : Nat) (l : Level) : List WorldEvent → Prop
  | [] => True
  | e :: es => w.OneWriter i l e ∧ SoleWriter (w.step e).2.1 i l es

/-! ### What is missing -/

/-- The document lacks a level of the targets. -/
def Lacks (w : World) (l : Level) : Prop := ∃ value, w.Holds .targets value ∧ l.node? value = none

/-- A store lacks a level, and so does the document, or the store is going to write that. -/
structure Leaving (w : World) (i : Nat) (l : Level) : Prop where
  cached : (w.seat i).store.cache.targets.has l = false
  committed : (w.seat i).store.isModified .targets = true ∨ w.Lacks l

/-- The document and some stores lack a level. -/
structure Gone (w : World) (l : Level) (js : List Nat) : Prop where
  committed : w.Lacks l
  cached : ∀ j ∈ js, (w.seat j).store.cache.targets.has l = false

variable {w : World} {i j : Nat} {l : Level} {e : WorldEvent} {js : List Nat}

theorem Lacks.node?_eq_none (h : w.Lacks l) {d : Document} (hd : w.medium.read = .ok d) :
    l.node? (d.get? Namespace.targets.key) = none := by
  obtain ⟨value, ⟨-, d', hd', rfl⟩, hvalue⟩ := h
  obtain rfl : d = d' := Except.ok.inj (hd.symm.trans hd')
  exact hvalue

/-! ### One event -/

/-- A store that lacks a level lacks it until it makes it, or reads it. -/
theorem has_step (hcached : (w.seat j).store.cache.targets.has l = false)
    (hmakes : ∀ op, e = .act j op → op.makes l = false)
    (hheld : (w.seat j).store.isModified .targets = true ∨ (w.step e).2.1.Lacks l) :
    ((w.step e).2.1.seat j).store.cache.targets.has l = false := by
  rcases w.store_step j e with ⟨op, rfl, hj, hstore⟩ | ⟨-, hcache⟩
  · by_cases hop : op = .synchronize
    · subst hop
      obtain ⟨y, -, hy, -, hmedium, hseat⟩ := w.synchronizes_step j
      rw [hseat hj]
      refine hy.has_eq_false hcached (hheld.imp_right fun hlacks d hd => ?_)
      exact hlacks.node?_eq_none (hmedium ▸ hd)
    · rw [hstore]
      exact StoreOp.has_run hop (hmakes op rfl) hcached
  · rw [hcache]
    exact hcached

/-- The document lacks what it lacked, and what the store that writes it lacks. -/
theorem lacks_step (hw : w.Sound) (hclosed : w.medium.files.Closed) (he : w.OneWriter i l e)
    (hcached : (w.seat i).store.cache.targets.has l = false)
    (h : w.flush? .targets e = none → w.Lacks l) : (w.step e).2.1.Lacks l := by
  cases hflush : w.flush? .targets e with
  | some value =>
    refine ⟨value, hw.holds_flush hclosed hflush, ?_⟩
    obtain ⟨j, hevent, -, -, rfl⟩ := flush?_eq_some.1 hflush
    obtain ⟨rfl, -⟩ := WorldEvent.act.inj (hevent.symm.trans (he.flush _ hflush))
    rw [← Option.not_isSome_iff_eq_none, Level.isSome_node? (hw j).tidy, hcached]
    exact Bool.false_ne_true
  | none =>
    obtain ⟨value, hholds, hvalue⟩ := h hflush
    exact ⟨value, hw.holds_step hclosed he.foreign hflush hholds, hvalue⟩

/-- A mark stays until the namespace is written. -/
theorem isModified_step (hflush : w.flush? .targets e = none)
    (h : (w.seat i).store.isModified .targets = true) :
    ((w.step e).2.1.seat i).store.isModified .targets = true := by
  rcases w.store_step i e with ⟨op, rfl, hi, hstore⟩ | ⟨-, hcache⟩
  · by_cases hop : op = .synchronize
    · subst hop
      obtain ⟨y, rfl, hy, -, -, hseat⟩ := w.synchronizes_step i
      rw [hseat hi]
      cases hresult : ((w.seat i).store.synchronize w.medium).result with
      | error e =>
        rw [Store.isModified, hy.cache_of_error hresult]
        exact h
      | ok => cases (flush?_eq_some.2 ⟨i, rfl, hresult, h, rfl⟩).symm.trans hflush
    · rw [hstore]
      exact StoreOp.isModified_run hop h
  · rw [Store.isModified, hcache]
    exact h

theorem Leaving.step (h : w.Leaving i l) (hw : w.Sound) (hclosed : w.medium.files.Closed)
    (he : w.OneWriter i l e) : (w.step e).2.1.Leaving i l := by
  have hcommitted : (w.seat i).store.isModified .targets = true ∧ w.flush? .targets e = none ∨
      (w.step e).2.1.Lacks l := by
    rcases h.committed with hmarked | hlacks
    · cases hflush : w.flush? .targets e with
      | none => exact .inl ⟨hmarked, rfl⟩
      | some v =>
        exact .inr (lacks_step hw hclosed he h.cached fun hnone => nomatch hflush.symm.trans hnone)
    · exact .inr (lacks_step hw hclosed he h.cached fun _ => hlacks)
  refine ⟨has_step h.cached he.makes (hcommitted.imp_left And.left), ?_⟩
  exact hcommitted.imp_left fun ⟨hmarked, hflush⟩ => isModified_step hflush hmarked

/-- Once the store is synchronized, the level is missing from the document. -/
theorem Leaving.gone (h : w.Leaving i l) (hw : w.Sound) (hclosed : w.medium.files.Closed)
    (hdone : (w.step (.act i .synchronize)).1 = .store .done) :
    (w.step (.act i .synchronize)).2.1.Gone l [i] := by
  have he : w.OneWriter i l (.act i .synchronize) :=
    ⟨rfl, fun _ _ => rfl, fun op hop => by obtain ⟨-, rfl⟩ := WorldEvent.act.inj hop; rfl⟩
  have hok := (w.step_synchronize_eq_done i).1 hdone
  have hlacks := lacks_step hw hclosed he h.cached fun hnone =>
    h.committed.resolve_left fun hmarked =>
      nomatch (flush?_eq_some.2 ⟨i, rfl, hok, hmarked, rfl⟩).symm.trans hnone
  refine ⟨hlacks, fun j hj => ?_⟩
  obtain rfl := List.mem_singleton.1 hj
  exact has_step h.cached he.makes (.inr hlacks)

/-- A store that reads the targets again has what the document has. -/
theorem Lacks.has_of_rereads (h : (w.step (.act j .synchronize)).2.1.Lacks l)
    (hreads : w.rereads j = true) :
    ((w.step (.act j .synchronize)).2.1.seat j).store.cache.targets.has l = false := by
  obtain ⟨y, rfl, hy, -, hmedium, hseat⟩ := w.synchronizes_step j
  obtain ⟨value, ⟨-, d, hd, rfl⟩, hvalue⟩ := h
  unfold rereads at hreads
  split at hreads
  · next hok =>
    simp only [Bool.and_eq_true, decide_eq_true_eq, Bool.not_eq_true'] at hreads
    obtain ⟨⟨hj, hmodified⟩, hallowed⟩ := hreads
    rw [hmedium] at hd
    have hcopy : ((w.seat j).store.synchronize w.medium).store.prefs.copy
        ((w.seat j).store.synchronize w.medium).medium Namespace.targets.key =
          .ok (d.get? Namespace.targets.key) := by
      rw [Prefs.copy_of_staged_eq_empty (hy.staged_of_ok hok)
        (hy.refusals_of_ok hok ▸ hallowed), hd]
      rfl
    rw [hseat hj, ((hy.agree_copy_of_ok hok hmodified).1 _ hcopy).has_eq]
    exact Level.has_load hvalue _
  · cases hreads

/-- A store that is told has read the targets, or was told before and has not made the level. -/
theorem mem_toldBy (h : j ∈ w.toldBy l js e) :
    e = .act j .synchronize ∧ w.rereads j = true ∨
      j ∈ js ∧ ∀ op, e = .act j op → op.makes l = false := by
  cases e with
  | act k op =>
    simp only [toldBy] at h
    split at h
    · obtain ⟨hj, hne⟩ := List.mem_filter.1 h
      exact .inr ⟨hj, fun op' hop => absurd (WorldEvent.act.inj hop).1.symm (of_decide_eq_true hne)⟩
    · next hmakes =>
      have hkept : ∀ op', WorldEvent.act k op = .act j op' → op'.makes l = false := by
        intro op' hop
        obtain ⟨-, rfl⟩ := WorldEvent.act.inj hop
        exact Bool.eq_false_iff.2 hmakes
      split at h
      · next hreads =>
        rcases List.mem_cons.1 h with rfl | hj
        · exact .inl ⟨congrArg _ hreads.1, hreads.2⟩
        · exact .inr ⟨hj, hkept⟩
      · exact .inr ⟨h, hkept⟩
  | «open» | vaultFault | put | change => exact .inr ⟨h, nofun⟩

theorem mem_toldBy_of_mem (h : j ∈ js) (hmakes : ∀ op, e = .act j op → op.makes l = false) :
    j ∈ w.toldBy l js e := by
  cases e with
  | act k op =>
    simp only [toldBy]
    split
    · next hop =>
      refine List.mem_filter.2 ⟨h, decide_eq_true fun hjk => ?_⟩
      subst hjk
      exact Bool.false_ne_true ((hmakes op rfl).symm.trans hop)
    · split
      · exact List.mem_cons_of_mem _ h
      · exact h
  | «open» | vaultFault | put | change => exact h

theorem Gone.step (h : w.Gone l js) (hi : i ∈ js) (hw : w.Sound)
    (hclosed : w.medium.files.Closed) (he : w.OneWriter i l e) :
    (w.step e).2.1.Gone l (w.toldBy l js e) := by
  have hlacks := lacks_step hw hclosed he (h.cached i hi) fun _ => h.committed
  refine ⟨hlacks, fun j hj => ?_⟩
  rcases mem_toldBy hj with ⟨rfl, hreads⟩ | ⟨hj, hmakes⟩
  · exact hlacks.has_of_rereads hreads
  · exact has_step (h.cached j hj) hmakes (.inr hlacks)

/-! ### Runs -/

theorem Leaving.run (h : w.Leaving i l) (hw : w.Sound) (hclosed : w.medium.files.Closed)
    {es : List WorldEvent} (hes : w.SoleWriter i l es) : (w.run es).Leaving i l := by
  induction es generalizing w with
  | nil => exact h
  | cons e es ih => exact ih (h.step hw hclosed hes.1) (hw.step e) (closed_step hclosed e) hes.2

theorem Gone.run (h : w.Gone l js) (hi : i ∈ js) (hw : w.Sound) (hclosed : w.medium.files.Closed)
    {es : List WorldEvent} (hes : w.SoleWriter i l es) : (w.run es).Gone l (w.told l js es) := by
  induction es generalizing w js with
  | nil => exact h
  | cons e es ih =>
    exact ih (h.step hi hw hclosed hes.1) (mem_toldBy_of_mem hi hes.1.makes) (hw.step e)
      (closed_step hclosed e) hes.2

/-- A store that removes what is there has the targets marked. -/
theorem leaving_removal (hi : i < w.seats.length) {x : Part}
    (hthere : (w.seat i).store.cache.targets.has x.level = true) :
    (w.step (.act i x.op)).2.1.Leaving i x.level := by
  have hremoved := x.removed_op (w.seat i).store (w.vault (w.seat i).vault) w.medium
  have hstore : ((w.step (.act i x.op)).2.1.seat i).store =
      (x.op.run (w.seat i).store (w.vault (w.seat i).vault) w.medium).store := by
    rw [step_act, seat_act, if_pos ⟨rfl, hi⟩]
  have hcontainer : (w.seat i).store.cache.targets.has x.container = true :=
    Level.has_of_mem_path hthere x.container_mem_path
  refine ⟨?_, .inl ?_⟩
  · rw [hstore, ← Bool.not_eq_true, hremoved.has]
    exact fun h => h.2 x.level.self_mem_path
  · rw [hstore, hremoved.modified, hcontainer, hthere]
    simp

/-- A removal drops a target or a portal and nothing else.  If it was there, it is gone from the
document once the store is synchronized, and from every store that reads the targets from then on,
as long as nobody else writes the targets, and until an operation makes it again. -/
theorem removed_run (hw : w.Reachable) (hi : i < w.seats.length) (x : Part) :
    x.Removed (w.seat i).store (w.vault (w.seat i).vault) w.medium
      (x.op.run (w.seat i).store (w.vault (w.seat i).vault) w.medium) ∧
    ((w.seat i).store.cache.targets.has x.level = true → ∀ es u u',
      (w.step (.act i x.op)).2.1.SoleWriter i x.level es →
      (w.step (.act i x.op)).2.1.run es = u →
      (u.step (.act i .synchronize)).1 = .store .done →
      (u.step (.act i .synchronize)).2.1 = u' →
      ∀ es', u'.SoleWriter i x.level es' →
        (u'.run es').Gone x.level (u'.told x.level [i] es')) := by
  refine ⟨x.removed_op .., fun hthere es u u' hes hu hdone hu' es' hes' => ?_⟩
  subst hu hu'
  have hsound := hw.sound.step (.act i x.op)
  have hclosed := closed_step hw.closed (.act i x.op)
  have hleaving := (leaving_removal hi hthere).run hsound hclosed hes
  have hgone := hleaving.gone (hsound.run es) (closed_run hclosed es) hdone
  exact hgone.run (List.mem_singleton_self i) ((hsound.run es).step _)
    (closed_step (closed_run hclosed es) _) hes'

/-- Two stores that have read a target with a portal. -/
def shared : World :=
  (start ⟨.memory (Entries.ofList [("Target Nodes", Node.ofList [("t",
    Node.ofList [("Portals", Node.ofList [("a", Node.ofList [])])])])]), {}⟩ {} .strict).run
      [.open .compat none, .act 0 .synchronize, .act 1 .synchronize]

/-- A portal that one of them removes is gone from the other one when it reads the targets; the list
of portals stays. -/
theorem removed_run_shared :
    let u := (shared.step (.act 0 (.removePortal "t" "a"))).2.1
    let u' := (u.step (.act 0 .synchronize)).2.1
    shared.Reachable ∧ (shared.seat 1).store.containsPortal "t" "a" = true ∧
      (shared.seat 0).store.removal = .strict ∧
      (u.step (.act 0 .synchronize)).1 = .store .done ∧
      u'.SoleWriter 0 (.portal "t" "a") [.act 1 .synchronize] ∧
      (u'.run [.act 1 .synchronize]).Gone (.portal "t" "a") [1, 0] ∧
      ((u'.run [.act 1 .synchronize]).seat 1).store.portals? "t" = some ∅ := by
  intro u u'
  have hw : shared.Reachable := ⟨_, {}, .strict, _, FileTree.closed_empty, rfl⟩
  have hthere : (shared.seat 0).store.cache.targets.has (.portal "t" "a") = true := rfl
  have hdone : (u.step (.act 0 .synchronize)).1 = .store .done := rfl
  have hflush : u'.flush? .targets (.act 1 .synchronize) = none := by decide
  have hwriter : u'.OneWriter 0 (.portal "t" "a") (.act 1 .synchronize) :=
    ⟨rfl, fun _ h => absurd (hflush.symm.trans h) nofun, nofun⟩
  have hsole : u'.SoleWriter 0 (.portal "t" "a") [.act 1 .synchronize] := ⟨hwriter, trivial⟩
  have htold : u'.told (.portal "t" "a") [0] [.act 1 .synchronize] = [1, 0] := by decide
  obtain ⟨-, hgone⟩ := removed_run hw (i := 0) (by decide) (.portal "t" "a")
  have hgone := hgone hthere [] u u' trivial rfl hdone rfl _ hsole
  exact ⟨hw, by decide, rfl, hdone, hsole, htold ▸ hgone, by decide⟩

end World

end InitiatorStore
