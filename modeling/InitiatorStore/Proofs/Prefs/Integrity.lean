import InitiatorStore.Proofs.Files.Names
import InitiatorStore.Proofs.Prefs.Overlay

/-!
# Integrity of the document

Whatever instances on a document do, and whatever state its file is in, the document changes only in
a commit that says so: one that succeeds and has something to write.  While the document is there
and cannot be read, it is neither written nor taken for an empty one: every commit that has
something to write fails and keeps it, every copy of what is not staged fails, and no run of calls
changes any file (`Instances.guards_run`).

Two facts carry this.  The temporary path is never that of the document, nor does it lead to the same
place (`Path.EndsInFile.temporary_ne`); and a commit that fails leaves what a settled path leads to.
A path that is not settled steps up out of a directory that is not there.  An attempt to write makes
that directory, and the path may lead elsewhere from then on
(`Instances.exists_document_after_failure`); but the file at its place is the same then too.
-/

namespace InitiatorStore

/-- The temporary path of a document is not its own, nor is it another one to the same place. -/
theorem Path.EndsInFile.temporary_ne {path : String} (h : EndsInFile path) :
    temporary path ≠ path ∧ place path ≠ place (temporary path) := by
  obtain ⟨front, name, hends, hname⟩ := h
  have htemporary : EndsIn (temporary path) front (extended name "json.tmp".toList) :=
    hends.withExtension (by decide) (by decide)
  have hne : extended name "json.tmp".toList ≠ name :=
    extended_ne hname "json".toList "tmp".toList (by decide)
  refine ⟨fun heq => hne ?_, hends.place_ne htemporary hname (Ne.symm hne)⟩
  rw [heq] at htemporary
  exact List.append_cancel_left (htemporary.toList.symm.trans hends.toList)

namespace Instances

variable {w : Instances} {path : String} {e : PrefsError}

/-- A call writes the document: it is a commit that succeeds and has something to write. -/
def Writes (w : Instances) (s : InstanceStep) : Prop :=
  ∃ i, s = .commit i ∧ (w.step s).1 = .done ∧ (w.get i).staged ≠ ∅

/-! ### One call -/

/-- A call does not touch the medium, or writes the document, or is a commit that fails. -/
theorem unchanged_or_writes (w : Instances) (s : InstanceStep) :
    (w.step s).2.medium = w.medium ∨ w.Writes s ∨
      ∃ i c e, Prefs.Commits (w.get i) w.medium c ∧ c.result = .error e ∧
        (w.step s).2.medium = c.medium := by
  rcases w.medium_step_cases s with hsame | ⟨i, rfl, hcommit, hmedium⟩
  · exact .inl hsame
  · by_cases hstaged : (w.get i).staged = ∅
    · exact .inl (hmedium.trans (Prefs.medium_commit_of_staged_eq_empty hstaged w.medium))
    · cases hresult : ((w.get i).commit w.medium).result with
      | ok => exact .inr (.inl ⟨i, rfl, congrArg InstanceAnswer.ofResult hresult, hstaged⟩)
      | error e => exact .inr (.inr ⟨i, _, e, hcommit, hresult, hmedium⟩)

/-- A call that writes the document leaves one. -/
theorem find?_of_writes {s : InstanceStep} (hpath : w.medium.path? = some path)
    (h : w.Writes s) : (w.step s).2.medium.files.find? path ≠ none := by
  obtain ⟨i, rfl, hdone, hstaged⟩ := h
  have hok : ((w.get i).commit w.medium).result = .ok () := by
    cases hresult : ((w.get i).commit w.medium).result with
    | ok => rfl
    | error e => cases hdone.symm.trans (congrArg InstanceAnswer.ofResult hresult)
  obtain ⟨d, -, hfound⟩ := (Prefs.commits (w.get i) w.medium).find?_of_ok hstaged hpath hok
  intro hnone
  cases hnone.symm.trans hfound

/-- What a settled path leads to changes only in a call that writes the document. -/
theorem find?_step (hclosed : w.medium.files.Closed) (hpath : w.medium.path? = some path)
    (hsettled : w.medium.files.Settled path) (s : InstanceStep) :
    (w.step s).2.medium.files.find? path = w.medium.files.find? path ∨ w.Writes s := by
  rcases w.unchanged_or_writes s with hsame | hwrites | ⟨i, c, e, hcommit, hresult, hmedium⟩
  · exact .inl (by rw [hsame])
  · exact .inr hwrites
  · rw [hmedium]
    exact .inl (hcommit.find?_of_error hclosed hpath hsettled hresult)

/-- A path stays settled: what it leads to stays, or a document is written there. -/
theorem settled_step (hclosed : w.medium.files.Closed) (hpath : w.medium.path? = some path)
    (hsettled : w.medium.files.Settled path) (s : InstanceStep) :
    (w.step s).2.medium.files.Settled path := by
  refine hsettled.imp (fun hthere => ?_) fun hg => hg.mono (foldersKept_step w s)
  rcases find?_step hclosed hpath hsettled s with hfound | hwrites
  · rwa [hfound]
  · exact find?_of_writes hpath hwrites

/-- The file at the place of the document changes only in a call that writes the document. -/
theorem sameFile_step (hpath : w.medium.path? = some path) (hends : Path.EndsInFile path)
    (s : InstanceStep) :
    w.medium.files.SameFile (w.step s).2.medium.files (Path.place path) ∨ w.Writes s := by
  rcases w.unchanged_or_writes s with hsame | hwrites | ⟨i, c, e, hcommit, hresult, hmedium⟩
  · rw [hsame]
    exact .inl (.refl _ _)
  · exact .inr hwrites
  · rw [hmedium]
    exact .inl (hcommit.sameFile hpath hends.temporary_ne.2 (.inr ⟨e, hresult⟩))

/-! ### Calls while the document cannot be read -/

theorem medium_step_of_read_eq_error (hread : w.medium.read = .error e) (s : InstanceStep) :
    (w.step s).2.medium = w.medium := by
  rcases w.medium_step_cases s with hsame | ⟨i, -, hcommit, hmedium⟩
  · exact hsame
  · exact hmedium.trans (hcommit.of_read_eq_error hread).1

theorem medium_run_of_read_eq_error (hread : w.medium.read = .error e) (ss : List InstanceStep) :
    (w.run ss).medium = w.medium := by
  refine run_of_step (P := fun u => u.medium = w.medium) (fun u s hu => ?_) rfl ss
  exact (medium_step_of_read_eq_error (hu ▸ hread) s).trans hu

theorem get_step_commit (w : Instances) (i : Nat) : (w.step (.commit i)).2.get i =
    if i < w.handles.length then ((w.get i).commit w.medium).prefs else w.get i := by
  -- a commit puts the instance back and then the medium
  refine (w.get_put i i ((w.get i).commit w.medium).prefs).trans ?_
  simp only [true_and]

/-- A commit that has something to write fails and keeps it. -/
theorem commit_of_read_eq_error (hread : w.medium.read = .error e) {i : Nat}
    (hstaged : (w.get i).staged ≠ ∅) :
    ∃ e', (w.step (.commit i)).1 = .failed e' ∧ ((w.get i).refusals = {} → e' = e) ∧
      ((w.step (.commit i)).2.get i).staged = (w.get i).staged := by
  obtain ⟨-, hkept, hfails⟩ := (Prefs.commits (w.get i) w.medium).of_read_eq_error hread
  obtain ⟨e', hresult, hnone⟩ := hfails hstaged
  refine ⟨e', congrArg InstanceAnswer.ofResult hresult, hnone, ?_⟩
  rw [get_step_commit]
  split
  · exact hkept
  · rfl

/-- A copy of what is not staged fails. -/
theorem copy_of_read_eq_error (hread : w.medium.read = .error e) {i : Nat} {key : String}
    (hkey : (w.get i).staged.get? key = none) :
    ∃ e', (w.step (.copy i key)).1 = .failed e' ∧ ((w.get i).refusals = {} → e' = e) := by
  obtain ⟨e', hcopy, hnone⟩ := Prefs.exists_copy_eq_error hread hkey
  refine ⟨e', ?_, hnone⟩
  rw [step, hcopy]

/-! ### What calls can do to the document -/

/-- What the calls to some instances can do to the document at a path. -/
structure Guards (w : Instances) (path : String) : Prop where
  /-- What a settled path leads to changes only in a call that writes the document. -/
  document : w.medium.files.Settled path → ∀ s,
    (w.step s).2.medium.files.find? path = w.medium.files.find? path ∨ w.Writes s
  /-- The file at the place of the document changes only in such a call, wherever the path leads. -/
  file : ∀ s,
    w.medium.files.SameFile (w.step s).2.medium.files (Path.place path) ∨ w.Writes s
  /-- A commit that has something to write to a document that cannot be read fails and keeps it. -/
  unwritten : ∀ e i, w.medium.files.Corrupt path e → (w.get i).staged ≠ ∅ →
    ∃ e', (w.step (.commit i)).1 = .failed e' ∧ ((w.get i).refusals = {} → e' = e) ∧
      ((w.step (.commit i)).2.get i).staged = (w.get i).staged
  /-- A copy of what is not staged fails where the document cannot be read. -/
  uncopied : ∀ e i key, w.medium.files.Corrupt path e → (w.get i).staged.get? key = none →
    ∃ e', (w.step (.copy i key)).1 = .failed e' ∧ ((w.get i).refusals = {} → e' = e)
  /-- No run changes anything as long as the document cannot be read. -/
  untouched : ∀ e ss, w.medium.files.Corrupt path e → (w.run ss).medium = w.medium

theorem guards (hclosed : w.medium.files.Closed) (hpath : w.medium.path? = some path)
    (hends : Path.EndsInFile path) : w.Guards path :=
  have hread : ∀ {e}, w.medium.files.Corrupt path e → w.medium.read = .error e := fun h =>
    (Medium.read_of_path? hpath).trans (FileTree.readDocument_eq_error.2 h)
  { document := find?_step hclosed hpath
    file := sameFile_step hpath hends
    unwritten := fun _ _ h => commit_of_read_eq_error (hread h)
    uncopied := fun _ _ _ h => copy_of_read_eq_error (hread h)
    untouched := fun _ ss h => medium_run_of_read_eq_error (hread h) ss }

/-! ### Runs -/

/-- **Integrity of the document.**  The temporary path is never that of the document; and in every
state that instances come to from any state of the files, no call can do more to the document than
`Guards` says.  A path that is settled at first stays settled. -/
theorem guards_run (hclosed : w.medium.files.Closed) (hpath : w.medium.path? = some path)
    (hends : Path.EndsInFile path) (ss : List InstanceStep) :
    (Path.temporary path ≠ path ∧ Path.place path ≠ Path.place (Path.temporary path)) ∧
      (w.run ss).Guards path ∧
      (w.medium.files.Settled path → (w.run ss).medium.files.Settled path) := by
  obtain ⟨hclosed', hpath', hsettled⟩ := run_of_step (w := w)
    (P := fun u => u.medium.files.Closed ∧ u.medium.path? = some path ∧
      (w.medium.files.Settled path → u.medium.files.Settled path))
    (fun u s ⟨hclosed, hpath, hsettled⟩ => ⟨closed_step hclosed s, (path?_step u s).trans hpath,
      fun h => settled_step hclosed hpath (hsettled h) s⟩)
    ⟨hclosed, hpath, id⟩ ss
  exact ⟨hends.temporary_ne, guards hclosed' hpath' hends, hsettled⟩

/-- One instance that has staged something for a document. -/
def staging (files : FileTree) (path : String) : Instances :=
  (⟨⟨.file path, files⟩, [{}]⟩ : Instances).run [.set 0 "x" (some (.scalar "1"))]

/-- A directory with a document that is cut off after its first brace. -/
def truncatedFiles : FileTree :=
  (({} : FileTree).put ⟨false, ["prefs"]⟩ .folder).put ⟨false, ["prefs", "app.json"]⟩
    (.file "\x7b".toUTF8)

theorem endsInFile_document (dir : String) : Path.EndsInFile (Path.document dir "app") :=
  ⟨_, _, Path.endsIn_join ⟨by decide, by decide⟩ dir, by decide⟩

theorem guards_run_truncatedFiles :
    let w := staging truncatedFiles (Path.document "prefs" "app")
    w.Guards (Path.document "prefs" "app") ∧
    (∃ e, (w.step (.commit 0)).1 = .failed e ∧
      ((w.step (.commit 0)).2.get 0).staged = (w.get 0).staged) ∧
    (∃ e, (w.step (.copy 0 "y")).1 = .failed e) ∧
    (w.run [.commit 0, .copy 0 "y", .commit 0]).medium.files = truncatedFiles := by
  intro w
  have hclosed : truncatedFiles.Closed :=
    (FileTree.closed_empty.put (by decide) (by decide) _).put (by decide) (by decide) _
  have hcorrupt : truncatedFiles.Corrupt (Path.document "prefs" "app") .json :=
    FileTree.readDocument_eq_error.1 (by decide +kernel)
  obtain ⟨-, hguards, -⟩ := guards_run (w := ⟨⟨.file (Path.document "prefs" "app"),
    truncatedFiles⟩, [{}]⟩) hclosed rfl (endsInFile_document "prefs")
    [.set 0 "x" (some (.scalar "1"))]
  obtain ⟨e, hfailed, -, hkept⟩ := hguards.unwritten .json 0 hcorrupt (by decide +kernel)
  obtain ⟨e', hfailed', -⟩ := hguards.uncopied .json 0 "y" hcorrupt (by decide +kernel)
  exact ⟨hguards, ⟨e, hfailed, hkept⟩, ⟨e', hfailed'⟩,
    congrArg Medium.files (hguards.untouched .json _ hcorrupt)⟩

/-- Where a path is not settled, a commit that fails may leave a document where there was none, or a
directory in its place: the attempt makes the directory that the path steps up out of. -/
theorem exists_document_after_failure :
    let beside := "d/app.json.tmp/../app.json"
    let above := "b/app.json/../app.json"
    let files := (({} : FileTree).put ⟨false, ["d"]⟩ .folder).put ⟨false, ["d", "app.json"]⟩
      (.file "\x7b\x7d".toUTF8)
    (Path.EndsInFile beside ∧ files.Closed ∧
      files.find? beside = none ∧ ((staging files beside).step (.commit 0)).1 = .failed .io ∧
      ((staging files beside).step (.commit 0)).2.medium.files.find? beside =
        some (.file "\x7b\x7d".toUTF8)) ∧
    Path.EndsInFile above ∧ ({} : FileTree).find? above = none ∧
      ((staging {} above).step (.commit 0)).1 = .failed .io ∧
      ((staging {} above).step (.commit 0)).2.medium.files.find? above = some .folder := by
  refine ⟨⟨endsInFile_document "d/app.json.tmp/..", ?_, ?_, ?_, ?_⟩,
    endsInFile_document "b/app.json/..", ?_, ?_, ?_⟩
  · exact (FileTree.closed_empty.put (by decide) (by decide) _).put (by decide) (by decide) _
  all_goals decide +kernel

end Instances

end InitiatorStore
