import InitiatorStore.Proofs.World.Run

/-!
# Documents in files and in memory

Stores cannot tell whether their document is kept in a file or in memory.  A run on a file, with
nobody else writing to it and no failure to write it, gives the same answers and leaves the same
stores as the run on a medium in memory that starts with the document in the file, and the file
reads as the document in memory all along (`World.answers_file_eq_memory`).

A synchronization looks at the medium through `Medium.read` only, and writes to it in its commit.
What it writes can be read again, because what stores cache is no deeper than what is read.
-/

namespace InitiatorStore

variable {m m' : Medium} {d : Document}

/-! ### Reading -/

theorem Store.reloadAll_eq_of_read_eq (h : m'.read = m.read) (c : Cache) (p : Prefs)
    (nss : List Namespace) : reloadAll m' c p nss = reloadAll m c p nss := by
  induction nss generalizing c p with
  | nil => rfl
  | cons ns rest ih =>
    have hreload : reload m' ns c p = reload m ns c p := by
      rw [reload, reload, Prefs.copy_eq_of_read_eq h]
    rw [reloadAll, reloadAll, hreload]
    simp only [ih]

/-! ### Writing -/

/-- A commit to a medium in memory comes to the same as one to a file that can be written, and what
is read is the same afterwards. -/
theorem Prefs.commit_memory {p : Prefs} (files : FileTree) (hread : m.read = .ok d)
    (hfits : m.Fits (applyStaged p.staged d)) (hio : (p.commit m).result ≠ .error .io) :
    (p.commit ⟨.memory d, files⟩).result = (p.commit m).result ∧
      (p.commit ⟨.memory d, files⟩).prefs = (p.commit m).prefs ∧
      ∃ d', (p.commit ⟨.memory d, files⟩).medium = ⟨.memory d', files⟩ ∧
        (p.commit m).medium.read = .ok d' := by
  have hmemory : (⟨.memory d, files⟩ : Medium).read = .ok d := rfl
  have hstaged : (p.record .commit).staged = p.staged := rfl
  simp only [commit, hread, hmemory, hstaged] at hio ⊢
  split
  · exact ⟨rfl, rfl, d, rfl, hread⟩
  · next hrefused =>
    rw [if_neg hrefused] at hio
    split
    · exact ⟨rfl, rfl, d, rfl, hread⟩
    · next hempty =>
      rw [if_neg hempty] at hio
      rcases hwrite : m.write (applyStaged p.staged d) with ⟨done, m''⟩
      rw [hwrite] at hio
      cases done with
      | false => exact absurd rfl hio
      | true => exact ⟨rfl, rfl, applyStaged p.staged d, rfl, Medium.read_write hfits hwrite⟩

/-- A synchronization on a medium in memory comes to the same as one on a file that can be
written. -/
theorem Store.synchronize_memory {s : Store} (files : FileTree) (hs : s.Sound m)
    (hread : m.read = .ok d) (hio : (s.synchronize m).result ≠ .error .io) :
    (s.synchronize ⟨.memory d, files⟩).result = (s.synchronize m).result ∧
      (s.synchronize ⟨.memory d, files⟩).store = (s.synchronize m).store ∧
      ∃ d', (s.synchronize ⟨.memory d, files⟩).medium = ⟨.memory d', files⟩ ∧
        (s.synchronize m).medium.read = .ok d' := by
  -- what is written can be read again, because what is cached is no deeper than what is read
  have hdepth := hs.covered.fits_applyStaged hs.fits hread
  simp only [synchronize] at hio ⊢
  rcases hstage : stage s.cache s.prefs s.cache.modified with ⟨_ | _, p, notices⟩
  · exact ⟨rfl, rfl, d, rfl, hread⟩
  · rw [hstage] at hio hdepth
    have hcommit := Prefs.commit_memory files hread (hdepth rfl)
    simp only at hio ⊢
    cases hresult : (p.commit m).result with
    | error e =>
      simp only [hresult] at hio hcommit ⊢
      obtain ⟨hresult', hprefs, hmedium⟩ := hcommit hio
      simp only [hresult', hprefs]
      exact ⟨trivial, trivial, hmedium⟩
    | ok =>
      obtain ⟨hresult', hprefs, d', hmedium, hread'⟩ := hcommit (by rw [hresult]; nofun)
      rw [hresult] at hresult'
      have hsame : (p.commit ⟨.memory d, files⟩).medium.read = (p.commit m).medium.read := by
        rw [hmedium, hread']
        rfl
      have hreload := reloadAll_eq_of_read_eq hsame
      simp only [hresult', hprefs, hreload]
      exact ⟨trivial, trivial, d', hmedium, hread'⟩

namespace World

variable {w u : World}

/-! ### Runs -/

/-- Two worlds with the same stores, one with its document in memory, the other reading the same
document. -/
structure Twins (files : FileTree) (w u : World) : Prop where
  seats : u.seats = w.seats
  vaults : u.vaults = w.vaults
  medium : ∃ d, w.medium.read = .ok d ∧ u.medium = ⟨.memory d, files⟩

/-- What an operation makes of two worlds with the same stores, when it comes to the same with
both. -/
theorem Twins.act {files : FileTree} (h : Twins files w u) (i : Nat) (op : StoreOp)
    (hturn : ∀ d, w.medium.read = .ok d →
      let file := op.run (w.seat i).store (w.vault (w.seat i).vault) w.medium
      let memory := op.run (w.seat i).store (w.vault (w.seat i).vault) ⟨.memory d, files⟩
      memory.answer = file.answer ∧ memory.store = file.store ∧ memory.vault = file.vault ∧
        ∃ d', memory.medium = ⟨.memory d', files⟩ ∧ file.medium.read = .ok d') :
    (u.step (.act i op)).1 = (w.step (.act i op)).1 ∧
      Twins files (w.step (.act i op)).2.1 (u.step (.act i op)).2.1 := by
  obtain ⟨medium, vaults, seats⟩ := u
  obtain ⟨rfl, rfl, d, hread, rfl⟩ := h
  obtain ⟨hanswer, hstore, hvault, d', hmedium, hread'⟩ := hturn d hread
  refine ⟨congrArg WorldAnswer.store hanswer, ?_, ?_, d', hread', hmedium⟩
  · exact congrArg (fun s => w.seats.set i { w.seat i with store := s }) hstore
  · exact congrArg (w.vaults.set (w.seat i).vault) hvault

theorem Twins.step {files : FileTree} (h : Twins files w u) (hw : w.Sound) {e : WorldEvent}
    (he : e.isForeign = false) (hio : (w.step e).1 ≠ .store (.prefsFailed .io)) :
    (u.step e).1 = (w.step e).1 ∧ Twins files (w.step e).2.1 (u.step e).2.1 := by
  cases e with
  | put | change => cases he
  | «open» removal own =>
    obtain ⟨medium, vaults, seats⟩ := u
    obtain ⟨rfl, rfl, hmedium⟩ := h
    cases own with
    | none => exact ⟨rfl, rfl, rfl, hmedium⟩
    | some own => exact ⟨rfl, rfl, rfl, hmedium⟩
  | vaultFault fault =>
    obtain ⟨medium, vaults, seats⟩ := u
    obtain ⟨rfl, rfl, hmedium⟩ := h
    exact ⟨rfl, rfl, rfl, hmedium⟩
  | act i op =>
    refine h.act i op fun d hread => ?_
    by_cases hop : op = .synchronize
    · subst hop
      have hio' : ((w.seat i).store.synchronize w.medium).result ≠ .error .io := by
        intro hresult
        refine hio (congrArg WorldAnswer.store ?_)
        exact (congrArg Turn.answer (StoreOp.run_synchronize _ _ w.medium)).trans
          (congrArg StoreOp.syncAnswer hresult)
      obtain ⟨hresult, hstore, hmedium⟩ :=
        Store.synchronize_memory files (hw i) hread hio'
      simp only [StoreOp.run_synchronize]
      exact ⟨congrArg StoreOp.syncAnswer hresult, hstore, trivial, hmedium⟩
    · obtain ⟨hanswer, hstore, hvault⟩ := StoreOp.run_congr hop
        (s := (w.seat i).store) (v := w.vault (w.seat i).vault) (m := w.medium)
        ⟨.memory d, files⟩
      exact ⟨hanswer, hstore, hvault, d, StoreOp.medium_run hop,
        (congrArg Medium.read (StoreOp.medium_run hop)).trans hread⟩

theorem Twins.run {files : FileTree} (h : Twins files w u) (hw : w.Sound) {es : List WorldEvent}
    (hes : ∀ e ∈ es, e.isForeign = false) (hio : .store (.prefsFailed .io) ∉ w.answers es) :
    u.answers es = w.answers es ∧ Twins files (w.run es) (u.run es) := by
  induction es generalizing w u with
  | nil => exact ⟨rfl, h⟩
  | cons e es ih =>
    rw [answers, List.mem_cons, not_or] at hio
    obtain ⟨hanswer, hstep⟩ := h.step hw (hes e (List.mem_cons_self ..)) (Ne.symm hio.1)
    obtain ⟨hanswers, hrun⟩ :=
      ih hstep (hw.step e) (fun e he => hes e (List.mem_cons_of_mem _ he)) hio.2
    rw [answers, answers, hanswer, hanswers]
    exact ⟨rfl, hrun⟩

/-- A run on a file, with nobody else writing to it and no failure to write it, has the answers of
the run on a medium in memory that starts with the same document; it leaves the same stores, caches
and marks included, and the same vaults, and the file reads as the document in memory. -/
theorem answers_file_eq_memory {t : FileTree} {path : String} {d : Document}
    (hread : t.readDocument path = .ok d) (files : FileTree) (vault : Vault) (removal : Removal)
    {es : List WorldEvent} (hes : ∀ e ∈ es, e.isForeign = false)
    (hio : .store (.prefsFailed .io) ∉ (start ⟨.file path, t⟩ vault removal).answers es) :
    (start ⟨.memory d, files⟩ vault removal).answers es =
        (start ⟨.file path, t⟩ vault removal).answers es ∧
      ((start ⟨.memory d, files⟩ vault removal).run es).seats =
        ((start ⟨.file path, t⟩ vault removal).run es).seats ∧
      ((start ⟨.memory d, files⟩ vault removal).run es).vaults =
        ((start ⟨.file path, t⟩ vault removal).run es).vaults ∧
      ∃ d', ((start ⟨.file path, t⟩ vault removal).run es).medium.read = .ok d' ∧
        ((start ⟨.memory d, files⟩ vault removal).run es).medium = ⟨.memory d', files⟩ := by
  have hstart : Twins files (start ⟨.file path, t⟩ vault removal)
      (start ⟨.memory d, files⟩ vault removal) := ⟨rfl, rfl, d, hread, rfl⟩
  obtain ⟨hanswers, hrun⟩ := hstart.run (sound_start _ vault removal) hes hio
  exact ⟨hanswers, hrun.seats, hrun.vaults, hrun.medium⟩

/-- A store changes all three namespaces and commits them, and then another one is opened. -/
def commitAll : List WorldEvent :=
  [.act 0 (.setTarget { name := "t" }), .act 0 (.setInitiatorName "i"), .act 0 .clearDiscovery,
    .act 0 .synchronize, .open .strict none, .act 1 .targetNames]

theorem answers_file_eq_memory_commitAll :
    (start .memory {} .compat).answers commitAll =
        (start (.file "prefs" "app") {} .compat).answers commitAll ∧
      ∃ d, ((start (.file "prefs" "app") {} .compat).run commitAll).medium.read = .ok d ∧
        ((start .memory {} .compat).run commitAll).medium = ⟨.memory d, {}⟩ := by
  have hanswers : (start (.file "prefs" "app") {} .compat).answers commitAll =
      [.store .done, .store .done, .store .done, .store .done, .done, .store (.texts none)] := rfl
  have hio : .store (.prefsFailed .io) ∉ (start (.file "prefs" "app") {} .compat).answers
      commitAll := by
    rw [hanswers]
    simp
  have hread : ({} : FileTree).readDocument (Path.document "prefs" "app") = .ok ∅ := rfl
  obtain ⟨heq, -, -, hmedium⟩ :=
    answers_file_eq_memory hread {} {} .compat (by decide) hio
  exact ⟨heq, hmedium⟩

end World

end InitiatorStore
