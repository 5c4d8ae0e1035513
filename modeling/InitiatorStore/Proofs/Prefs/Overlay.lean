import InitiatorStore.Prefs.Instances
import InitiatorStore.Proofs.Positions
import InitiatorStore.Proofs.Prefs.Commit

/-!
# Staging among several instances

The instances on a medium answer as one committed map with a private overlay for each instance does
(`Instances.answers_eq_overlays`): an instance sees its own latest write or removal of a key, and
else what is committed; the others do not see it; and a commit moves the overlay into the committed
map as it is at that moment, and leaves all other keys alone.

`Overlays` is that model, with maps as functions.  `Instances.Mirrors` says that instances stand for
it; one step keeps it (`Instances.Mirrors.step`).  A document in a file is read only up to
`Node.maxDepth` nested mappings, so what is staged for it must fit into one.
-/

namespace InitiatorStore

/-! ### The model -/

/-- One committed map, and an overlay for each instance; `some none` in an overlay is a removal. -/
structure Overlays where
  committed : String → Option Node
  overlays : List (String → Option (Option Node))

namespace Overlays

/-- The overlay of an instance; one that is not open has an empty one. -/
def overlay (r : Overlays) (i : Nat) : String → Option (Option Node) :=
  r.overlays.getD i fun _ => none

/-- What an instance sees. -/
def view (r : Overlays) (i : Nat) (key : String) : Option Node :=
  (r.overlay i key).getD (r.committed key)

/-- One call to one of the instances. -/
def step (r : Overlays) : InstanceStep → InstanceAnswer × Overlays
  | .open => (.done, { r with overlays := r.overlays ++ [fun _ => none] })
  | .set i key value =>
    (.done, { r with
      overlays := r.overlays.set i fun k => if k = key then some value else r.overlay i k })
  | .copy i key => (.value (r.view i key), r)
  | .commit i => (.done, ⟨r.view i, r.overlays.set i fun _ => none⟩)

/-- The model after some calls. -/
def run (r : Overlays) : List InstanceStep → Overlays
  | [] => r
  | s :: ss => run (r.step s).2 ss

/-- The answers to some calls. -/
def answers (r : Overlays) : List InstanceStep → List InstanceAnswer
  | [] => []
  | s :: ss => (r.step s).1 :: answers (r.step s).2 ss

/-- A number of instances with nothing staged on a document. -/
def fresh (d : Document) (n : Nat) : Overlays := ⟨d.get?, List.replicate n fun _ => none⟩

end Overlays

namespace Instances

/-- Several instances after some calls. -/
def run (w : Instances) : List InstanceStep → Instances
  | [] => w
  | s :: ss => run (w.step s).2 ss

/-- The answers of several instances to some calls. -/
def answers (w : Instances) : List InstanceStep → List InstanceAnswer
  | [] => []
  | s :: ss => (w.step s).1 :: answers (w.step s).2 ss

/-- Instances that stand for a model. -/
structure Mirrors (w : Instances) (r : Overlays) : Prop where
  /-- The document can be read, and it is the committed map. -/
  committed : ∃ d, w.medium.read = .ok d ∧ ∀ k, d.get? k = r.committed k
  /-- There are as many instances as overlays. -/
  length : w.handles.length = r.overlays.length
  /-- What an instance has staged is its overlay. -/
  overlay : ∀ i k, (w.get i).staged.get? k = r.overlay i k
  /-- What is staged fits into a document. -/
  fits : ∀ i k n, (w.get i).staged.get? k = some (some n) → w.medium.path?.isSome →
    n.depth < Node.maxDepth
  /-- No call is refused. -/
  allowed : ∀ i, (w.get i).refusals = {}

variable {w : Instances} {r : Overlays} {m : Medium} {d : Document}

/-! ### One call -/

theorem get_put (w : Instances) (i j : Nat) (p : Prefs) :
    (w.put i p).get j = if j = i ∧ i < w.handles.length then p else w.get j :=
  getD_set ..

/-- What is put in an instance's place is what stands there, if the instance is open. -/
theorem Mirrors.put (h : w.Mirrors r) {i : Nat} {p : Prefs}
    {overlay : String → Option (Option Node)} (hstaged : ∀ k, p.staged.get? k = overlay k)
    (hfits : ∀ k n, p.staged.get? k = some (some n) → w.medium.path?.isSome →
      n.depth < Node.maxDepth) (hallowed : p.refusals = {}) :
    (w.put i p).Mirrors { r with overlays := r.overlays.set i overlay } where
  committed := h.committed
  length := by
    rw [Instances.put, List.length_set, List.length_set]
    exact h.length
  overlay j k := by
    rw [get_put, Overlays.overlay, getD_set, ← h.length]
    split
    · exact hstaged k
    · exact h.overlay j k
  fits j k n := by
    rw [get_put]
    split
    · exact hfits k n
    · exact h.fits j k n
  allowed j := by
    rw [get_put]
    split
    · exact hallowed
    · exact h.allowed j

theorem Mirrors.open (h : w.Mirrors r) : (w.step .open).2.Mirrors (r.step .open).2 := by
  have hget : ∀ j, (w.step .open).2.get j = w.get j :=
    fun j => getD_concat_fresh w.handles j ({} : Prefs)
  refine ⟨h.committed, ?_, fun j k => ?_, fun j => hget j ▸ h.fits j, fun j => hget j ▸ h.allowed j⟩
  · simp [step, Overlays.step, h.length]
  · rw [hget, Overlays.overlay, Overlays.step, getD_concat_fresh]
    exact h.overlay j k

theorem Mirrors.set (h : w.Mirrors r) {i : Nat} {key : String} {value : Option Node}
    (hfits : ∀ n, value = some n → w.medium.path?.isSome → n.depth < Node.maxDepth) :
    (w.step (.set i key value)).1 = .done ∧
      (w.step (.set i key value)).2.Mirrors (r.step (.set i key value)).2 := by
  have hset : (w.get i).set key value = (.ok (), { (w.get i).record (.set key) with
      staged := (w.get i).staged.insert key value }) := by
    rw [Prefs.set, Prefs.record, h.allowed i]
    rfl
  rw [step, hset]
  refine ⟨rfl, h.put (fun k => ?_) (fun k n => ?_) (h.allowed i)⟩
  · rw [Entries.get?_insert, h.overlay i k]
  · rw [Entries.get?_insert]
    split
    · exact fun hn => hfits n (Option.some.inj hn)
    · exact h.fits i k n

theorem Mirrors.copy (h : w.Mirrors r) (i : Nat) (key : String) :
    w.step (.copy i key) = (.value (r.view i key), w) := by
  obtain ⟨d, hread, hd⟩ := h.committed
  have hcopy : (w.get i).copy w.medium key = .ok (r.view i key) := by
    rw [Prefs.copy, h.allowed i, h.overlay i key, hread, Overlays.view, ← hd key]
    cases r.overlay i key <;> rfl
  rw [step, hcopy]

theorem Mirrors.commit (h : w.Mirrors r) {i : Nat}
    (hio : (w.step (.commit i)).1 ≠ .failed .io) :
    (w.step (.commit i)).1 = .done ∧
      (w.step (.commit i)).2.Mirrors (r.step (.commit i)).2 := by
  obtain ⟨d, hread, hd⟩ := h.committed
  have hc := Prefs.commits (w.get i) w.medium
  rw [step] at hio ⊢
  generalize (w.get i).commit w.medium = c at hc hio
  have hok : c.result = .ok () := by
    refine (hc.ok_or_io (by rw [h.allowed i]) hread).resolve_right fun hfailed => ?_
    rw [hfailed] at hio
    exact hio rfl
  have hstaged := hc.staged_of_ok hok
  have hput : (w.put i c.prefs).Mirrors { r with overlays := r.overlays.set i fun _ => none } := by
    refine h.put (fun k => ?_) (fun k n hn => ?_) (hc.refusals.trans (h.allowed i))
    · rw [hstaged]
      rfl
    · rw [hstaged] at hn
      cases hn
  have hfits := Medium.fits_applyStaged (Medium.fits_of_read hread) (h.fits i)
  rw [hok]
  refine ⟨rfl, ⟨⟨_, hc.read_of_ok hread hfits hok, fun k => ?_⟩, hput.length, hput.overlay,
    fun j k n hn hfile => hput.fits j k n hn (hc.path? ▸ hfile), hput.allowed⟩⟩
  rw [get?_applyStaged, h.overlay i k, hd k]
  rfl

end Instances

/-- How deep the node nests that a call stages. -/
def InstanceStep.depth : InstanceStep → Nat
  | .set _ _ (some n) => n.depth
  | _ => 0

/-- What a call stages fits into a document on a medium. -/
def InstanceStep.Fits (m : Medium) (s : InstanceStep) : Prop :=
  m.path?.isSome → s.depth < Node.maxDepth

namespace Instances

variable {w : Instances} {r : Overlays} {m : Medium} {d : Document} {s : InstanceStep}

/-- A call that meets no fault of the files is answered as the model answers it. -/
theorem Mirrors.step (h : w.Mirrors r) (hfits : s.Fits w.medium)
    (hio : (w.step s).1 ≠ .failed .io) :
    (w.step s).1 = (r.step s).1 ∧ (w.step s).2.Mirrors (r.step s).2 := by
  cases s with
  | «open» => exact ⟨rfl, h.open⟩
  | set i key value =>
    refine h.set fun n hn => ?_
    subst hn
    exact hfits
  | copy i key =>
    rw [h.copy i key]
    exact ⟨rfl, h⟩
  | commit i => exact h.commit hio

/-- What a call does to the medium: nothing, or what a commit of an instance does. -/
theorem medium_step_cases (w : Instances) (s : InstanceStep) :
    (w.step s).2.medium = w.medium ∨ ∃ i, s = .commit i ∧
      Prefs.Commits (w.get i) w.medium ((w.get i).commit w.medium) ∧
      (w.step s).2.medium = ((w.get i).commit w.medium).medium := by
  cases s with
  | «open» | set => exact .inl rfl
  | copy i key =>
    rw [Instances.step]
    split <;> exact .inl rfl
  | commit i => exact .inr ⟨i, rfl, (w.get i).commits w.medium, rfl⟩

theorem path?_step (w : Instances) (s : InstanceStep) :
    (w.step s).2.medium.path? = w.medium.path? := by
  rcases w.medium_step_cases s with hsame | ⟨i, -, hcommit, hmedium⟩
  · rw [hsame]
  · rw [hmedium]
    exact hcommit.path?

theorem foldersKept_step (w : Instances) (s : InstanceStep) :
    w.medium.files.FoldersKept (w.step s).2.medium.files := by
  rcases w.medium_step_cases s with hsame | ⟨i, -, hcommit, hmedium⟩
  · rw [hsame]
    exact fun _ h => h
  · rw [hmedium]
    exact hcommit.foldersKept

theorem closed_step (hclosed : w.medium.files.Closed) (s : InstanceStep) :
    (w.step s).2.medium.files.Closed := by
  rcases w.medium_step_cases s with hsame | ⟨i, -, hcommit, hmedium⟩
  · rwa [hsame]
  · rw [hmedium]
    exact hcommit.closed hclosed

/-- On a medium that can be written no call meets a fault of the files. -/
theorem Mirrors.step_ne_io (h : w.Mirrors r) (hm : w.medium.Writable) :
    (w.step s).1 ≠ .failed .io ∧ (w.step s).2.medium.Writable := by
  cases s with
  | «open» => exact ⟨nofun, hm⟩
  | set i key value =>
    refine ⟨?_, hm⟩
    rw [Instances.step, Prefs.set, Prefs.record, h.allowed i]
    nofun
  | copy i key =>
    rw [h.copy i key]
    exact ⟨nofun, hm⟩
  | commit i =>
    obtain ⟨d, hread, -⟩ := h.committed
    have hc := Prefs.commits (w.get i) w.medium
    refine ⟨?_, hc.writable hm⟩
    rw [Instances.step, hc.ok_of_writable (by rw [h.allowed i]) hread hm]
    nofun

/-! ### Runs -/

/-- What every call keeps holds after a run. -/
theorem run_of_step {P : Instances → Prop} (hstep : ∀ u s, P u → P (u.step s).2) (h : P w)
    (ss : List InstanceStep) : P (w.run ss) := by
  induction ss generalizing w with
  | nil => exact h
  | cons s ss ih => exact ih (hstep w s h)

theorem mirrors_fresh (hread : m.read = .ok d) (n : Nat) :
    (⟨m, List.replicate n {}⟩ : Instances).Mirrors (.fresh d n) := by
  have hget : ∀ i, (⟨m, List.replicate n {}⟩ : Instances).get i = {} :=
    fun i => getD_replicate n i ({} : Prefs)
  refine ⟨⟨d, hread, fun _ => rfl⟩,
    (List.length_replicate ..).trans (List.length_replicate ..).symm,
    fun i k => ?_, fun i k n hn => ?_, fun i => congrArg Prefs.refusals (hget i)⟩
  · rw [hget, Overlays.overlay, Overlays.fresh, getD_replicate]
    rfl
  · rw [hget] at hn
    cases hn

theorem Mirrors.run (h : w.Mirrors r) {ss : List InstanceStep}
    (hfits : ∀ s ∈ ss, s.Fits w.medium) (hio : .failed .io ∉ w.answers ss) :
    w.answers ss = r.answers ss ∧ (w.run ss).Mirrors (r.run ss) := by
  induction ss generalizing w r with
  | nil => exact ⟨rfl, h⟩
  | cons s ss ih =>
    rw [answers, List.mem_cons, not_or] at hio
    obtain ⟨hanswer, hstep⟩ := h.step (hfits s (List.mem_cons_self ..)) (Ne.symm hio.1)
    have hrest : ∀ s' ∈ ss, s'.Fits (w.step s).2.medium := fun s' hs' hfile =>
      hfits s' (List.mem_cons_of_mem _ hs') (path?_step w s ▸ hfile)
    obtain ⟨hanswers, hrun⟩ := ih hstep hrest hio.2
    exact ⟨List.cons_eq_cons.2 ⟨hanswer, hanswers⟩, hrun⟩

theorem Mirrors.io_notMem (h : w.Mirrors r) (hm : w.medium.Writable) {ss : List InstanceStep}
    (hfits : ∀ s ∈ ss, s.Fits w.medium) : .failed .io ∉ w.answers ss := by
  induction ss generalizing w r with
  | nil => exact List.not_mem_nil
  | cons s ss ih =>
    obtain ⟨hne, hm'⟩ := h.step_ne_io hm (s := s)
    obtain ⟨-, hstep⟩ := h.step (hfits s (List.mem_cons_self ..)) hne
    have hrest : ∀ s' ∈ ss, s'.Fits (w.step s).2.medium := fun s' hs' hfile =>
      hfits s' (List.mem_cons_of_mem _ hs') (path?_step w s ▸ hfile)
    rw [answers, List.mem_cons, not_or]
    exact ⟨Ne.symm hne, ih hstep hm' hrest⟩

/-- Instances that are fresh at first, on a document that can be read, answer as the model does
whenever no call meets a fault of the files, and then stand for the model; and no call meets one if
the medium can be written. -/
theorem answers_eq_overlays (hread : m.read = .ok d) (n : Nat) {ss : List InstanceStep}
    (hfits : ∀ s ∈ ss, s.Fits m) :
    (.failed .io ∉ (⟨m, List.replicate n {}⟩ : Instances).answers ss →
      (⟨m, List.replicate n {}⟩ : Instances).answers ss = (Overlays.fresh d n).answers ss ∧
      ((⟨m, List.replicate n {}⟩ : Instances).run ss).Mirrors ((Overlays.fresh d n).run ss)) ∧
    (m.Writable → .failed .io ∉ (⟨m, List.replicate n {}⟩ : Instances).answers ss) :=
  ⟨(mirrors_fresh hread n).run hfits, fun hm => (mirrors_fresh hread n).io_notMem hm hfits⟩

/-- Two instances on one file that write different keys, and one key in turn. -/
def twoWriters : List InstanceStep :=
  [.set 0 "a" (some (.scalar "1")), .copy 0 "a", .copy 1 "a", .commit 0, .copy 1 "a",
    .set 1 "b" (some (.scalar "2")), .set 0 "a" none, .commit 1, .copy 0 "b", .copy 0 "a",
    .copy 1 "a", .commit 0, .copy 1 "a"]

theorem answers_eq_overlays_twoWriters :
    (Medium.file "prefs" "app").read = .ok ∅ ∧
    (∀ s ∈ twoWriters, s.Fits (Medium.file "prefs" "app")) ∧
    (⟨Medium.file "prefs" "app", List.replicate 2 {}⟩ : Instances).answers twoWriters =
      [.done, .value (some (.scalar "1")), .value none, .done, .value (some (.scalar "1")),
        .done, .done, .done, .value (some (.scalar "2")), .value none, .value (some (.scalar "1")),
        .done, .value none] := by
  have hread : (Medium.file "prefs" "app").read = .ok ∅ := rfl
  have hwritable : (Medium.file "prefs" "app").Writable := fun _ => rfl
  have hdepth : ∀ s ∈ twoWriters, s.depth < Node.maxDepth := by decide
  have hfits : ∀ s ∈ twoWriters, s.Fits (Medium.file "prefs" "app") := fun s hs _ => hdepth s hs
  obtain ⟨hanswers, hio⟩ := answers_eq_overlays hread 2 hfits
  exact ⟨hread, hfits, (hanswers (hio hwritable)).1⟩

end Instances

end InitiatorStore
