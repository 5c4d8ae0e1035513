import InitiatorStore.Proofs.Prefs.Commit

/-!
# What becomes of staged writes

A stage should outlive the commits that fail and be read back after the one that succeeds.  Both
hold only in part, and the results say where the line is.

* A failed commit keeps the stage if the document could not be read; if it could, the stage is lost,
  at whatever point the write then failed (`Prefs.failed_commit_keeps_or_loses`).
* A commit that succeeds is read back if every staged node nests less than `Node.maxDepth` deep,
  since the document is one level deeper than its nodes.  Otherwise the whole document is unreadable
  from then on, and no later commit replaces it (`Prefs.commit_read_back_or_unreadable`).

The list of ways in which a commit ends (`Prefs.commits`) carries both.
-/

namespace InitiatorStore

namespace Prefs

variable {p q : Prefs} {m : Medium} {d : Document}

/-! ### Commits that fail -/

/-- One instance still holds all that another has staged. -/
structure StageKept (p q : Prefs) : Prop where
  /-- Nothing that is staged has changed. -/
  staged : q.staged = p.staged
  /-- A staged key is copied as it was staged, whatever the medium has become. -/
  copies : ∀ m k v, p.staged.get? k = some v → q.copy m k = .ok v
  /-- A commit that succeeds later writes all of it over the document as it is then. -/
  commits : ∀ m path, m.path? = some path → (q.commit m).result = .ok () →
    ∃ d, m.read = .ok d ∧ (q.commit m).medium.files.find? path =
      some (.file (Document.pretty (applyStaged p.staged d)).toUTF8)

/-- An instance holds nothing of what it had staged. -/
structure StageLost (q : Prefs) : Prop where
  /-- Nothing is staged. -/
  staged : q.staged = ∅
  /-- Every key is copied as it is committed. -/
  copies : ∀ m k, q.copy m k = m.read.map (·.get? k)
  /-- A later commit succeeds and writes nothing. -/
  commits : ∀ m, (q.commit m).result = .ok () ∧ (q.commit m).medium = m

theorem stageKept (hstaged : q.staged = p.staged) (hne : p.staged ≠ ∅) (hq : q.refusals = {}) :
    StageKept p q where
  staged := hstaged
  copies m k v hk := by
    rw [copy, hq, hstaged, hk]
    rfl
  commits m path hpath hok := by
    rw [← hstaged] at hne ⊢
    exact (q.commits m).find?_of_ok hne hpath hok

theorem stageLost (hstaged : q.staged = ∅) (hq : q.refusals = {}) : StageLost q where
  staged := hstaged
  copies m k := copy_of_staged_eq_empty hstaged (by rw [hq]; rfl)
  commits m := by
    have hallowed : (q.record .commit).refusals.commit = false := congrArg Refusals.commit hq
    have hempty : (q.record .commit).staged.isEmpty = true := congrArg Entries.isEmpty hstaged
    rw [commit, hallowed, hempty]
    exact ⟨rfl, rfl⟩

/-- A failed commit has kept the stage just if it could not read the document, and has lost it just
if it could. -/
theorem failed_commit_keeps_or_loses {e : PrefsError} (hp : p.refusals = {})
    (hfail : (p.commit m).result = .error e) :
    (StageKept p (p.commit m).prefs ↔ ∃ e, m.read = .error e) ∧
      (StageLost (p.commit m).prefs ↔ ∃ d, m.read = .ok d) := by
  have hallowed : p.refusals.commit = false := congrArg Refusals.commit hp
  -- nothing staged, nothing to fail
  have hne : p.staged ≠ ∅ := fun hempty => by
    have hok := ((stageLost hempty hp).commits m).1
    rw [hok] at hfail
    cases hfail
  have hq := (p.commits m).refusals.trans hp
  have hcommits := p.commits m
  generalize p.commit m = c at *
  cases hcommits with
  | refused hrefused => cases hrefused.symm.trans hallowed
  | idle | written => cases hfail
  | unread _ hread =>
    refine ⟨iff_of_true (stageKept rfl hne hq) ⟨_, hread⟩, iff_of_false ?_ ?_⟩
    · exact fun hlost => hne hlost.staged
    · rintro ⟨d, hd⟩
      cases hread.symm.trans hd
  | unwritten _ hread =>
    refine ⟨iff_of_false ?_ ?_, iff_of_true (stageLost rfl hq) ⟨_, hread⟩⟩
    · exact fun hkept => hne hkept.staged.symm
    · rintro ⟨e, he⟩
      cases hread.symm.trans he

/-- An instance with one staged write. -/
def oneWrite : Prefs := (({} : Prefs).set "a" (some (.scalar "v"))).2

/-- A document that cannot be read, since a directory stands in its place. -/
def inPlaceOfDocument : Medium :=
  ⟨.file "app.json", ({} : FileTree).put ⟨false, ["app.json"]⟩ .folder⟩

/-- A document that can be read and not written, since a directory stands in the place of the
temporary file. -/
def inPlaceOfTemporary : Medium :=
  ⟨.file "app.json", ({} : FileTree).put ⟨false, ["app.json.tmp"]⟩ .folder⟩

theorem failed_commit_keeps_unread :
    oneWrite.refusals = {} ∧ (oneWrite.commit inPlaceOfDocument).result = .error .io ∧
      StageKept oneWrite (oneWrite.commit inPlaceOfDocument).prefs :=
  ⟨rfl, rfl, (failed_commit_keeps_or_loses rfl rfl).1.2 ⟨.io, rfl⟩⟩

/-- The staged write fails to be written. -/
def failedWrite : Commit := oneWrite.commit inPlaceOfTemporary

/-- A write that fails loses the stage: the value is copied no more, and once nothing is in the way
the next commit succeeds without it. -/
theorem failed_commit_loses_unwritten :
    failedWrite.result = .error .io ∧
      oneWrite.copy inPlaceOfTemporary "a" = .ok (some (.scalar "v")) ∧
      failedWrite.prefs.copy failedWrite.medium "a" = .ok none ∧
      (failedWrite.prefs.commit ⟨.file "app.json", {}⟩).result = .ok () ∧
      (failedWrite.prefs.commit ⟨.file "app.json", {}⟩).medium = ⟨.file "app.json", {}⟩ :=
  ⟨rfl, rfl, rfl, rfl, rfl⟩

/-! ### Commits that succeed -/

/-- A document that no instance can read, and none can replace. -/
structure Unreadable (m : Medium) : Prop where
  /-- No key is copied by an instance with nothing staged. -/
  get : ∀ k, m.get k = .error .json
  /-- Whatever is staged, it is not committed. -/
  commit : ∀ q : Prefs, q.refusals.commit = false → q.staged ≠ ∅ →
    (q.commit m).result = .error .json ∧ (q.commit m).medium = m

theorem unreadable_of_read (h : m.read = .error .json) : Unreadable m where
  get k := by
    rw [Medium.get, copy_of_staged_eq_empty rfl rfl, h]
    rfl
  commit q hallowed hne := by
    have hcommits := q.commits m
    generalize q.commit m = c at hcommits
    cases hcommits with
    | refused hrefused => cases hrefused.symm.trans hallowed
    | idle _ hempty => exact absurd hempty hne
    | unread _ hread =>
      obtain rfl := Except.error.inj (h.symm.trans hread)
      exact ⟨rfl, rfl⟩
    | unwritten _ hread | written _ hread => cases h.symm.trans hread

/-- A commit that succeeds is read back, if every staged node leaves room for one more level. -/
theorem get_of_ok (hread : m.read = .ok d) (hok : (p.commit m).result = .ok ())
    (hroom : ∀ k n, p.staged.get? k = some (some n) → n.depth < Node.maxDepth) (k : String) :
    (p.commit m).medium.get k = .ok ((p.staged.get? k).getD (d.get? k)) := by
  have hfits : m.Fits (applyStaged p.staged d) :=
    Medium.fits_applyStaged (Medium.fits_of_read hread) fun k n hk _ => hroom k n hk
  rw [Medium.get, copy_of_staged_eq_empty rfl rfl, (p.commits m).read_of_ok hread hfits hok]
  exact congrArg Except.ok (get?_applyStaged ..)

/-- A staged node that leaves no room for one more level makes the document unreadable. -/
theorem unreadable_of_ok {path k : String} {n : Node} (hpath : m.path? = some path)
    (hok : (p.commit m).result = .ok ()) (hk : p.staged.get? k = some (some n))
    (hdeep : Node.maxDepth ≤ n.depth) : Unreadable (p.commit m).medium := by
  have hne : p.staged ≠ ∅ := by
    rintro hempty
    rw [hempty] at hk
    cases hk
  obtain ⟨d, -, hfile⟩ := (p.commits m).find?_of_ok hne hpath hok
  have hdepth : Node.maxDepth < (Node.mapping (applyStaged p.staged d)).depth := by
    refine Nat.not_le.1 fun hle => ?_
    have hn : (applyStaged p.staged d).get? k = some n := by rw [get?_applyStaged, hk]; rfl
    exact Nat.not_le.2 hdeep (Node.depth_mapping_le.1 hle k n hn)
  refine unreadable_of_read ?_
  rw [Medium.read_of_path? ((p.commits m).path?.trans hpath)]
  exact FileTree.readDocument_of_find?_of_lt hdepth hfile

/-- A commit to a file that succeeds is read back under every key, if no staged node is nested
`Node.maxDepth` deep, and otherwise it leaves a document that is lost. -/
theorem commit_read_back_or_unreadable {path : String} (hpath : m.path? = some path)
    (hread : m.read = .ok d) (hok : (p.commit m).result = .ok ()) :
    ((∀ k n, p.staged.get? k = some (some n) → n.depth < Node.maxDepth) →
      ∀ k, (p.commit m).medium.get k = .ok ((p.staged.get? k).getD (d.get? k))) ∧
    ((∃ k n, p.staged.get? k = some (some n) ∧ Node.maxDepth ≤ n.depth) →
      Unreadable (p.commit m).medium) :=
  ⟨get_of_ok hread hok, fun ⟨_, _, hk, hdeep⟩ => unreadable_of_ok hpath hok hk hdeep⟩

theorem commit_read_back_oneWrite :
    (Medium.file "prefs" "app").path? = some "prefs/app.json" ∧
      (Medium.file "prefs" "app").read = .ok ∅ ∧
      (oneWrite.commit (Medium.file "prefs" "app")).result = .ok () ∧
      (oneWrite.commit (Medium.file "prefs" "app")).medium.get "a" = .ok (some (.scalar "v")) := by
  have hread : (Medium.file "prefs" "app").read = .ok ∅ := rfl
  have hok : (oneWrite.commit (Medium.file "prefs" "app")).result = .ok () := rfl
  obtain ⟨hback, -⟩ := commit_read_back_or_unreadable (p := oneWrite) rfl hread hok
  refine ⟨rfl, hread, hok, hback (fun k n hk => ?_) "a"⟩
  have hstaged : oneWrite.staged = Entries.insert "a" (some (.scalar "v")) ∅ := rfl
  rw [hstaged, Entries.get?_insert] at hk
  split at hk
  · cases hk
    decide
  · cases hk

/-- A string below that many mappings. -/
def nested : Nat → Node
  | 0 => .blank
  | depth + 1 => .mapping (Entries.insert "a" (nested depth) ∅)

theorem depth_nested (depth : Nat) : (nested depth).depth = depth := by
  induction depth with
  | zero => rfl
  | succ depth ih => exact congrArg (· + 1) ((Nat.max_zero _).trans ih)

/-- A node that is read as it is written, and is not read any more once it has been committed. -/
theorem commit_unreadable_nested :
    Node.read? (nested Node.maxDepth).pretty = some (nested Node.maxDepth) ∧
      (Medium.file "prefs" "app").read = .ok ∅ ∧
      ((Medium.file "prefs" "app").put "k" (nested Node.maxDepth)).result = .ok () ∧
      ((Medium.file "prefs" "app").put "k" (nested Node.maxDepth)).medium.get "k" =
        .error .json := by
  have hread : Node.read? (nested Node.maxDepth).pretty = some (nested Node.maxDepth) := by
    rw [Node.read?_pretty, depth_nested, if_pos (Nat.le_refl _)]
  have hok : ((Medium.file "prefs" "app").put "k" (nested Node.maxDepth)).result = .ok () := rfl
  refine ⟨hread, rfl, hok, ?_⟩
  have hk : (({} : Prefs).set "k" (nested Node.maxDepth)).2.staged.get? "k" =
      some (some (nested Node.maxDepth)) := rfl
  exact (unreadable_of_ok rfl hok hk (Nat.le_of_eq (depth_nested _).symm)).get "k"

end Prefs

end InitiatorStore
