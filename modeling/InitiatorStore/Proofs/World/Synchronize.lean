import InitiatorStore.Proofs.World.Marks

/-!
# Synchronizing among several stores

* `World.synchronize_done`: a synchronization that succeeds commits the values of the changed
  namespaces and nothing else, keeps them cached, has the others as they are committed, and takes
  all marks off; and what is committed under the key of a namespace is at all times what was
  committed there last, whichever store did it.
* `World.synchronize_failed`: a synchronization that fails leaves caches and marks as they were, and
  so it does what is read, if the path of the document is grounded; it makes no call after the one
  that fails.  Whatever happens until one succeeds, that one commits what is cached by then.
-/

namespace InitiatorStore

/-- What a store and the document come to by a synchronization that succeeds. -/
structure Store.Synchronized (s : Store) (d : Document) (s' : Store) (d' : Document) : Prop where
  /-- The document has the values of the changed namespaces, and is otherwise as it was. -/
  flushed : s.Flushed d d'
  /-- A namespace that was changed keeps its value. -/
  kept : ∀ ns, s.isModified ns = true → Cache.Agree ns s'.cache s.cache
  /-- A namespace that was not changed has the value that is committed, whatever it was before. -/
  loaded : ∀ ns, s.isModified ns = false → s.prefs.refusals.copy.contains ns.key = false →
    Cache.Agree ns s'.cache (s.cache.load ns (d'.get? ns.key))
  /-- Where its key may not be copied, it keeps its value. -/
  refused : ∀ ns, s.isModified ns = false → s.prefs.refusals.copy.contains ns.key = true →
    Cache.Agree ns s'.cache s.cache
  /-- No namespace is marked. -/
  settled : ∀ ns, s'.isModified ns = false

theorem Store.Synchronizes.synchronized {s : Store} {m : Medium} {y : Sync} {d : Document}
    (h : Synchronizes s m y) (hs : s.Sound m) (hread : m.read = .ok d) (hok : y.result = .ok ()) :
    ∃ d', y.medium.read = .ok d' ∧ s.Synchronized d y.store d' := by
  obtain ⟨d', hread', hflushed⟩ := h.read_of_ok hs.covered hs.fits hread hok
  have hstaged := h.staged_of_ok hok
  have hrefusals := h.refusals_of_ok hok
  refine ⟨d', hread', hflushed, fun ns => h.agree_of_ok hok, fun ns hns hallowed => ?_,
    fun ns hns hrefused => ?_, h.isModified_of_ok hok⟩
  · obtain ⟨hload, -⟩ := h.agree_copy_of_ok hok hns
    have hcopy : y.store.prefs.copy y.medium ns.key = .ok (d'.get? ns.key) := by
      rw [Prefs.copy_of_staged_eq_empty hstaged (hrefusals ▸ hallowed), hread']
      rfl
    exact hload _ hcopy
  · obtain ⟨-, hkeep⟩ := h.agree_copy_of_ok hok hns
    exact hkeep _ (Prefs.copy_of_refused (hrefusals ▸ hrefused))

namespace World

variable {w : World}

/-! ### What was committed last -/

/-- What an event commits under the key of a namespace, if it is a synchronization that does. -/
def flush? (w : World) (ns : Namespace) : WorldEvent → Option (Option Node)
  | .act i .synchronize =>
    match ((w.seat i).store.synchronize w.medium).result with
    | .ok _ =>
      if (w.seat i).store.isModified ns then some ((w.seat i).store.cache.node? ns) else none
    | .error _ => none
  | _ => none

/-- What was committed last under the key of a namespace in the course of some events. -/
def lastFlush? (w : World) (ns : Namespace) : List WorldEvent → Option (Option Node)
  | [] => none
  | e :: es => (lastFlush? (w.step e).2.1 ns es).or (w.flush? ns e)

/-- The document can be read, at a grounded path, and has a value under the key of a namespace. -/
def Holds (w : World) (ns : Namespace) (v : Option Node) : Prop :=
  w.medium.Grounded ∧ ∃ d, w.medium.read = .ok d ∧ d.get? ns.key = v

variable {ns : Namespace} {v : Option Node} {e : WorldEvent}

theorem flush?_eq_some : w.flush? ns e = some v ↔ ∃ i, e = .act i .synchronize ∧
    ((w.seat i).store.synchronize w.medium).result = .ok () ∧
    (w.seat i).store.isModified ns = true ∧ (w.seat i).store.cache.node? ns = v := by
  constructor
  · intro h
    unfold flush? at h
    split at h
    · next i =>
      split at h
      · next hok =>
        split at h
        · next hns => exact ⟨i, rfl, hok, hns, Option.some.inj h⟩
        · cases h
      · cases h
    · cases h
  · rintro ⟨i, rfl, hok, hns, rfl⟩
    rw [flush?, hok]
    exact if_pos hns

/-- What an event commits is there afterwards. -/
theorem Sound.holds_flush (hw : w.Sound) (hclosed : w.medium.files.Closed)
    (h : w.flush? ns e = some v) : (w.step e).2.1.Holds ns v := by
  obtain ⟨i, rfl, hok, hns, rfl⟩ := flush?_eq_some.1 h
  obtain ⟨y, rfl, hy, -, hmedium, -⟩ := w.synchronizes_step i
  obtain ⟨⟨d, hread⟩, hg⟩ := hy.exists_read_of_ok hclosed hok hns
  obtain ⟨d', hread', hflushed⟩ := hy.read_of_ok (hw i).covered (hw i).fits hread hok
  rw [Holds, hmedium]
  exact ⟨hg, d', hread', hflushed.written ns hns⟩

/-- What an event does not commit again stays as it was. -/
theorem Sound.holds_step (hw : w.Sound) (hclosed : w.medium.files.Closed)
    (he : e.isForeign = false) (hflush : w.flush? ns e = none) (h : w.Holds ns v) :
    (w.step e).2.1.Holds ns v := by
  obtain ⟨hg, d, hread, hd⟩ := h
  cases e with
  | put | change => cases he
  | vaultFault => exact ⟨hg, d, hread, hd⟩
  | «open» removal own =>
    have hmedium : (w.step (.open removal own)).2.1.medium = w.medium :=
      medium_openStore w removal own
    rw [Holds, hmedium]
    exact ⟨hg, d, hread, hd⟩
  | act i op =>
    by_cases hop : op = .synchronize
    · subst hop
      obtain ⟨y, hy', hy, -, hmedium, -⟩ := w.synchronizes_step i
      rw [Holds, hmedium]
      refine ⟨hy.grounded hg, ?_⟩
      cases hresult : y.result with
      | error e => exact ⟨d, (hy.read_of_error hclosed hg hresult).trans hread, hd⟩
      | ok =>
        obtain ⟨d', hread', hflushed⟩ := hy.read_of_ok (hw i).covered (hw i).fits hread hresult
        -- no namespace that is committed has this key, or the event would be a flush of it
        have hkey : ∀ ns', (w.seat i).store.isModified ns' = true → ns.key ≠ ns'.key := by
          intro ns' hns' hkey
          obtain rfl := Namespace.key_injective hkey
          have hsome := flush?_eq_some.2 ⟨i, rfl, hy' ▸ hresult, hns', rfl⟩
          cases hsome.symm.trans hflush
        exact ⟨d', hread', (hflushed.kept ns.key hkey).trans hd⟩
    · have hmedium : (w.step (.act i op)).2.1.medium = w.medium := StoreOp.medium_run hop
      rw [Holds, hmedium]
      exact ⟨hg, d, hread, hd⟩

theorem Sound.holds_run (hw : w.Sound) (hclosed : w.medium.files.Closed) {es : List WorldEvent}
    (hes : ∀ e ∈ es, e.isForeign = false) (h : w.Holds ns v) :
    (w.run es).Holds ns ((w.lastFlush? ns es).getD v) := by
  induction es generalizing w v with
  | nil => exact h
  | cons e es ih =>
    have hrest : ∀ e ∈ es, e.isForeign = false := fun e he => hes e (List.mem_cons_of_mem _ he)
    have hstep : (w.step e).2.1.Holds ns ((w.flush? ns e).getD v) := by
      cases hflush : w.flush? ns e with
      | none => exact hw.holds_step hclosed (hes e (List.mem_cons_self ..)) hflush h
      | some n => exact hw.holds_flush hclosed hflush
    have hrun := ih (hw.step e) (closed_step hclosed e) hrest hstep
    rw [lastFlush?]
    -- a later flush covers this event, and without one what this event leaves is there to the end
    cases hlast : (w.step e).2.1.lastFlush? ns es with
    | none =>
      rw [hlast] at hrun
      exact hrun
    | some n =>
      rw [hlast] at hrun
      exact hrun

theorem Sound.holds_lastFlush? (hw : w.Sound) (hclosed : w.medium.files.Closed)
    {es : List WorldEvent} (hes : ∀ e ∈ es, e.isForeign = false) (h : w.lastFlush? ns es = some v) :
    (w.run es).Holds ns v := by
  induction es generalizing w with
  | nil => cases h
  | cons e es ih =>
    have hrest : ∀ e ∈ es, e.isForeign = false := fun e he => hes e (List.mem_cons_of_mem _ he)
    rw [lastFlush?] at h
    cases hlast : (w.step e).2.1.lastFlush? ns es with
    | some n =>
      rw [hlast] at h
      obtain rfl : n = v := Option.some.inj h
      exact ih (hw.step e) (closed_step hclosed e) hrest hlast
    | none =>
      -- the event is the last flush, and nothing after it touches the key
      rw [hlast, Option.none_or] at h
      have hrun := (hw.step e).holds_run (closed_step hclosed e) hrest (hw.holds_flush hclosed h)
      rw [hlast] at hrun
      exact hrun

/-! ### Success and failure -/

/-- A synchronization that succeeds brings the document and the store into agreement, and what is
committed under the key of a namespace is what was committed there last. -/
theorem synchronize_done (hw : w.Reachable) :
    (∀ i d, i < w.seats.length → w.medium.read = .ok d →
      (w.step (.act i .synchronize)).1 = .store .done →
      ∃ d', (w.step (.act i .synchronize)).2.1.medium.read = .ok d' ∧
        (w.seat i).store.Synchronized d ((w.step (.act i .synchronize)).2.1.seat i).store d') ∧
    ∀ es, (∀ e ∈ es, e.isForeign = false) → ∀ ns,
      (∀ n, w.lastFlush? ns es = some n →
        ∃ d, (w.run es).medium.read = .ok d ∧ d.get? ns.key = n) ∧
      ∀ d, w.medium.Grounded → w.medium.read = .ok d →
        ∃ d', (w.run es).medium.read = .ok d' ∧
          d'.get? ns.key = (w.lastFlush? ns es).getD (d.get? ns.key) := by
  have hsound := hw.sound
  refine ⟨fun i d hi hread hdone => ?_, fun es hes ns => ⟨fun n hn => ?_, fun d hg hread => ?_⟩⟩
  · obtain ⟨y, -, hy, hanswer, hmedium, hseat⟩ := w.synchronizes_step i
    rw [hanswer] at hdone
    have hok := StoreOp.syncAnswer_eq_done.1 (WorldAnswer.store.inj hdone)
    rw [hmedium, hseat hi]
    exact hy.synchronized (hsound i) hread hok
  · exact (hsound.holds_lastFlush? hw.closed hes hn).2
  · exact (hsound.holds_run hw.closed hes ⟨hg, d, hread, rfl⟩).2

/-- A store on an empty medium in memory with a target that is not yet committed. -/
def oneTarget : World := (start .memory {} .compat).run [.act 0 (.setTarget { name := "t" })]

theorem synchronize_done_oneTarget : oneTarget.Reachable ∧
    (∃ d, (oneTarget.step (.act 0 .synchronize)).2.1.medium.read = .ok d ∧
      (oneTarget.seat 0).store.Synchronized ∅
        ((oneTarget.step (.act 0 .synchronize)).2.1.seat 0).store d) ∧
    ∃ d, (oneTarget.run [.act 0 .synchronize]).medium.read = .ok d ∧
      d.get? "Target Nodes" = (oneTarget.seat 0).store.cache.node? .targets := by
  have hw : oneTarget.Reachable := ⟨.memory, {}, .compat, _, FileTree.closed_empty, rfl⟩
  obtain ⟨hdone, hlast⟩ := synchronize_done hw
  exact ⟨hw, hdone 0 ∅ (by decide) rfl rfl,
    (hlast [.act 0 .synchronize] (by decide) .targets).1 _ rfl⟩

/-- What becomes of the changes of a store in the course of events among which no synchronization of
it is done. -/
structure Retries (w u : World) (i : Nat) : Prop where
  /-- What was marked before is marked still. -/
  marked : ∀ ns, (w.seat i).store.isModified ns = true → (u.seat i).store.isModified ns = true
  /-- What is staged belongs to marked namespaces. -/
  staged : ∀ k v, (u.seat i).store.prefs.staged.get? k = some v →
    ∃ ns, k = ns.key ∧ (u.seat i).store.isModified ns = true
  /-- Once the document can be read and written and no call is refused, a synchronization is done. -/
  done : (u.seat i).store.prefs.refusals = {} → ∀ d, u.medium.read = .ok d → u.medium.Writable →
    (u.step (.act i .synchronize)).1 = .store .done
  /-- If it is done, it commits what is cached then, and nothing that was staged before. -/
  committed : (u.step (.act i .synchronize)).1 = .store .done →
    ∀ ns, (u.seat i).store.isModified ns = true →
      ∃ d, (u.step (.act i .synchronize)).2.1.medium.read = .ok d ∧
        d.get? ns.key = (u.seat i).store.cache.node? ns

theorem Sound.retries (hw : w.Sound) (hclosed : w.medium.files.Closed) {es : List WorldEvent}
    {i : Nat} (hes : w.lastSettled? i es = none) : w.Retries (w.run es) i where
  marked ns := isModified_run hes
  staged := (hw.run es i).covered
  done hallowed d hread hm := by
    refine (step_synchronize_eq_done _ i).2 ?_
    exact (Store.synchronizes _ _).ok_of_writable hallowed hread hm
  committed hdone ns hns := by
    have hok := (step_synchronize_eq_done _ i).1 hdone
    have hflush := flush?_eq_some.2 ⟨i, rfl, hok, hns, rfl⟩
    exact ((hw.run es).holds_flush (closed_run hclosed es) hflush).2

/-- A synchronization that fails leaves the caches, their marks and what is read as they were, and
makes no call after the one that fails.  After any further events, attempts that fail and changes of
the files among them, what is staged belongs to marked namespaces, and the first synchronization
that is done commits what is cached then. -/
theorem synchronize_failed (hw : w.Reachable) {i : Nat} (hi : i < w.seats.length) :
    (∀ e, (w.step (.act i .synchronize)).1 = .store (.prefsFailed e) →
      ((w.step (.act i .synchronize)).2.1.seat i).store.cache = (w.seat i).store.cache ∧
      (w.medium.Grounded →
        (w.step (.act i .synchronize)).2.1.medium.read = w.medium.read) ∧
      ∃ (before : List Namespace) (last : PrefsCall),
        ((w.step (.act i .synchronize)).2.1.seat i).store.prefs.calls =
          last :: ((before.map fun ns => PrefsCall.set ns.key).reverse ++
            (w.seat i).store.prefs.calls) ∧
        (∀ ns ∈ before, (w.seat i).store.prefs.refusals.set.contains ns.key = false) ∧
        (last = .commit ∧ before = (w.seat i).store.cache.modified ∨
          ∃ ns after, last = .set ns.key ∧
            (w.seat i).store.cache.modified = before ++ ns :: after ∧
            (w.seat i).store.prefs.refusals.set.contains ns.key = true)) ∧
    ∀ es, w.lastSettled? i es = none → w.Retries (w.run es) i := by
  refine ⟨fun e herr => ?_, fun es => hw.sound.retries hw.closed⟩
  obtain ⟨y, -, hy, hanswer, hmedium, hseat⟩ := w.synchronizes_step i
  rw [hanswer] at herr
  have hresult := StoreOp.syncAnswer_eq_prefsFailed.1 (WorldAnswer.store.inj herr)
  rw [hmedium, hseat hi]
  exact ⟨hy.cache_of_error hresult, fun hg => hy.read_of_error hw.closed hg hresult,
    hy.calls_of_error hresult⟩

/-- A store with three changed namespaces, whose document would stand below a file. -/
def blocked : World :=
  (start ⟨.file "a/app.json", ({} : FileTree).put ⟨false, ["a"]⟩ (.file .empty)⟩ {} .compat).run
    [.act 0 (.setTarget { name := "t" }), .act 0 (.setInitiatorName "i"), .act 0 .clearDiscovery]

/-- The store fails to write, and loses what it has staged; then the file is removed, and one of the
namespaces is changed once more. -/
def mending : List WorldEvent :=
  [.act 0 .synchronize, .change (.removeFile "a"), .act 0 (.setTarget { name := "u" })]

theorem synchronize_failed_blocked : blocked.Reachable ∧
    (blocked.step (.act 0 .synchronize)).1 = .store (.prefsFailed .io) ∧
    ((blocked.step (.act 0 .synchronize)).2.1.seat 0).store.cache =
      (blocked.seat 0).store.cache ∧
    (blocked.step (.act 0 .synchronize)).2.1.medium.read = blocked.medium.read ∧
    ((blocked.run mending).seat 0).store.prefs.staged = ∅ ∧
    ((blocked.run mending).step (.act 0 .synchronize)).1 = .store .done ∧
    ∀ ns, ∃ d, ((blocked.run mending).step (.act 0 .synchronize)).2.1.medium.read = .ok d ∧
      d.get? ns.key = ((blocked.run mending).seat 0).store.cache.node? ns := by
  have hw : blocked.Reachable :=
    ⟨_, {}, .compat, _, FileTree.closed_empty.put (by decide) (by decide) _, rfl⟩
  obtain ⟨hfailed, hretries⟩ := synchronize_failed hw (i := 0) (by decide)
  obtain ⟨hcache, hread, -⟩ := hfailed .io rfl
  have hretries := hretries mending rfl
  have hdone : ((blocked.run mending).step (.act 0 .synchronize)).1 = .store .done :=
    (step_synchronize_eq_done _ 0).2 (by decide +kernel)
  refine ⟨hw, rfl, hcache, hread fun path hpath => ?_, rfl, hdone, fun ns => ?_⟩
  · obtain rfl : "a/app.json" = path := Option.some.inj hpath
    exact FileTree.grounded_of_notMem (by decide)
  · exact hretries.committed hdone ns (hretries.marked ns (by cases ns <;> rfl))

/-- A store with a changed namespace, whose document stands above a directory that is not there. -/
def sidestep : World :=
  (start (.file "b/app.json/.." "app") {} .compat).run [.act 0 (.setTarget { name := "t" })]

/-- Without a grounded path a failure may change what is read: the attempt makes a directory in the
place that the path leads to from then on. -/
theorem read_ne_of_sidestep : sidestep.Reachable ∧ 0 < sidestep.seats.length ∧
    (sidestep.step (.act 0 .synchronize)).1 = .store (.prefsFailed .io) ∧
    (sidestep.step (.act 0 .synchronize)).2.1.medium.read ≠ sidestep.medium.read := by
  have hbefore : sidestep.medium.read = .ok ∅ := rfl
  have hafter : (sidestep.step (.act 0 .synchronize)).2.1.medium.read = .error .io := rfl
  refine ⟨⟨_, {}, .compat, _, FileTree.closed_empty, rfl⟩, by decide, rfl, ?_⟩
  rw [hbefore, hafter]
  nofun

end World

end InitiatorStore
