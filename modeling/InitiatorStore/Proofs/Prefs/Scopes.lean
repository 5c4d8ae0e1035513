import InitiatorStore.Config
import InitiatorStore.Proofs.Files.Names
import InitiatorStore.Proofs.Prefs.Overlay
import InitiatorStore.Proofs.Text.Decimal
import Mathlib.Data.List.Nodup

/-!
# The scopes of applications

A configuration that is accepted keeps its preferences in one document of the configured directory,
and writes them by way of one temporary file beside it; no call changes any other file
(`Config.Confined`).  The documents and temporary files of two applications in one directory are four
files, and no calls of the one change what the other reads (`Config.Isolated`).

The name of the application is checked without the white space at its ends, but names the document
with it.  White space has no slash in it, so the name as it is has none either
(`Config.slash_notMem_appId`).

The path of what the other reads has to be settled.  If the configured directory steps up out of a
directory that is not there, the first application to write makes that directory, and the other
reads what its path did not lead to before (`Config.read_changed_of_sidestep`).
-/

namespace InitiatorStore

namespace Instances

variable {w : Instances} {path other : String} {p : Place}

/-- No calls change any file but the document and the temporary one. -/
theorem sameFile_run (hpath : w.medium.path? = some path) (hp : p ≠ Path.place path)
    (htemporary : p ≠ Path.place (Path.temporary path)) (ss : List InstanceStep) :
    w.medium.files.SameFile (w.run ss).medium.files p := by
  refine (run_of_step (P := fun u => u.medium.path? = some path ∧
    w.medium.files.SameFile u.medium.files p) (fun u s ⟨hpath, hsame⟩ => ?_)
    ⟨hpath, .refl _ _⟩ ss).2
  refine ⟨(path?_step u s).trans hpath, hsame.trans ?_⟩
  rcases u.medium_step_cases s with hsame | ⟨i, -, hcommit, hmedium⟩
  · rw [hsame]
    exact .refl _ _
  · rw [hmedium]
    exact hcommit.sameFile hpath htemporary (.inl hp)

/-- Files in which a settled path leads to what it leads to in others. -/
structure KeepsSettled (t u : FileTree) (other : String) : Prop where
  closed : u.Closed
  settled : u.Settled other
  found : u.find? other = t.find? other

/-- A call leaves what a settled path beside the document leads to. -/
theorem keepsSettled_step (hpath : w.medium.path? = some path) (hbeside : Path.Beside other path)
    (hclosed : w.medium.files.Closed) (hother : w.medium.files.Settled other) (s : InstanceStep) :
    KeepsSettled w.medium.files (w.step s).2.medium.files other := by
  have hfound : (w.step s).2.medium.files.find? other = w.medium.files.find? other := by
    rcases w.medium_step_cases s with hsame | ⟨i, -, hcommit, hmedium⟩
    · rw [hsame]
    · rw [hmedium]
      exact hcommit.find?_of_beside hclosed hpath hbeside hother
  refine ⟨closed_step hclosed s, ?_, hfound⟩
  exact hother.imp (fun hthere hnone => hthere (hfound.symm.trans hnone))
    fun hg => hg.mono (foldersKept_step w s)

theorem keepsSettled_run (hpath : w.medium.path? = some path) (hbeside : Path.Beside other path)
    (hclosed : w.medium.files.Closed) (hother : w.medium.files.Settled other)
    (ss : List InstanceStep) :
    KeepsSettled w.medium.files (w.run ss).medium.files other := by
  refine (run_of_step (P := fun u => u.medium.path? = some path ∧
    KeepsSettled w.medium.files u.medium.files other) (fun u s ⟨hpath, hkeeps⟩ => ?_)
    ⟨hpath, hclosed, hother, rfl⟩ ss).2
  have hstep := keepsSettled_step hpath hbeside hkeeps.closed hkeeps.settled s
  exact ⟨(path?_step u s).trans hpath, hstep.closed, hstep.settled,
    hstep.found.trans hkeeps.found⟩

end Instances

namespace Config

variable {c c' : Config}

/-! ### Names that pass -/

theorem problem?_of_parse {s : String} (h : parse s = .ok c) : c.problem? = none := by
  unfold parse at h
  split at h
  · cases h
  · split at h
    · cases h
    · next hproblem => exact Except.ok.inj h ▸ hproblem

/-- What is checked of the name of an application. -/
theorem appId_of_problem? (h : c.problem? = none) :
    Text.trim c.appId ≠ "" ∧ isPlainName (Text.trim c.appId) = true := by
  rw [problem?] at h
  split at h
  · cases h
  · next hempty =>
    split at h
    · cases h
    · next hplain => exact ⟨hempty, by simpa using hplain⟩

theorem appId_ne (h : c.problem? = none) : c.appId ≠ "" ∧ c.appId ≠ "." := by
  obtain ⟨hempty, hplain⟩ := appId_of_problem? h
  constructor
  · intro heq
    rw [heq] at hempty
    exact hempty (by decide)
  · intro heq
    rw [heq] at hplain
    revert hplain
    decide

/-- The name has no slash at its ends either. -/
theorem slash_notMem_appId (h : c.problem? = none) : '/' ∉ c.appId.toList := by
  obtain ⟨-, hplain⟩ := appId_of_problem? h
  obtain ⟨before, after, hsplit, hbefore, hafter⟩ := Text.exists_trimChars c.appId.toList
  have hmiddle : '/' ∉ Text.trimChars c.appId.toList := by
    simp only [isPlainName, Text.trim, String.toList_ofList, Bool.and_eq_true] at hplain
    simpa using hplain.1.1.1
  have hblank : Text.isBlankChar '/' = false := by decide
  rw [hsplit, List.mem_append, List.mem_append]
  rintro (hmem | hmem | hmem)
  · exact Bool.false_ne_true (hblank.symm.trans (hbefore _ hmem))
  · exact hmiddle hmem
  · exact Bool.false_ne_true (hblank.symm.trans (hafter _ hmem))

/-! ### Files -/

/-- The names of the files of a configuration: the document and the temporary file. -/
def fileNames (c : Config) : List String := [c.appId ++ ".json", c.appId ++ ".json.tmp"]

/-- The places of the files of a configuration. -/
def filePlaces (c : Config) : List Place :=
  [Path.place c.document, Path.place (Path.temporary c.document)]

theorem endsIn_document (h : c.problem? = none) :
    Path.EndsIn c.document (Path.lead c.path) (c.appId ++ ".json").toList := by
  refine Path.endsIn_join ⟨?_, ?_⟩ c.path
  · simp only [Path.isIdle, Bool.or_eq_false_iff, decide_eq_false_iff_not]
    constructor <;> intro heq <;> simpa using congrArg List.length heq
  · rw [String.toList_append, List.mem_append, not_or]
    exact ⟨slash_notMem_appId h, by decide⟩

theorem extended_appId (h : c.problem? = none) :
    Path.extended (c.appId ++ ".json").toList "json.tmp".toList =
      (c.appId ++ ".json.tmp").toList := by
  obtain ⟨hempty, hdot⟩ := appId_ne h
  have hstem : Path.stem (c.appId ++ ".json").toList = c.appId.toList := by
    rw [String.toList_append]
    change Path.stem (c.appId.toList ++ '.' :: "json".toList) = c.appId.toList
    exact Path.stem_append (fun hnil => hempty (String.toList_eq_nil_iff.1 hnil)) (by decide)
  have hne : c.appId.toList ≠ ['.'] := fun heq => hdot (String.toList_injective heq)
  rw [Path.extended, hstem, if_neg hne, String.toList_append]
  rfl

theorem endsIn_temporary (h : c.problem? = none) :
    Path.EndsIn (Path.temporary c.document) (Path.lead c.path)
      (c.appId ++ ".json.tmp").toList := by
  rw [← extended_appId h]
  exact (endsIn_document h).withExtension (by decide) (by decide)

/-- No file of an application has the name of the directory above. -/
theorem ne_up_of_mem_fileNames {name : String} (hname : name ∈ c.fileNames) :
    name.toList ≠ ['.', '.'] := by
  have hlength : 5 ≤ name.toList.length := by
    rw [fileNames, List.mem_cons, List.mem_singleton] at hname
    rcases hname with rfl | rfl <;> simp
  intro heq
  rw [heq] at hlength
  exact absurd hlength (by decide)

/-- The files of an application are those of its names in the configured directory. -/
theorem filePlaces_eq (h : c.problem? = none) :
    c.filePlaces = c.fileNames.map (Path.place c.path).child := by
  have hchild : ∀ {p name : String}, name ∈ c.fileNames →
      Path.EndsIn p (Path.lead c.path) name.toList →
      Path.place p = (Path.place c.path).child name := by
    intro p name hname hends
    rw [hends.place_eq_child (ne_up_of_mem_fileNames hname), Path.place_lead, String.ofList_toList]
  rw [filePlaces, hchild (by simp [fileNames]) (endsIn_document h),
    hchild (by simp [fileNames]) (endsIn_temporary h)]
  rfl

theorem nodup_fileNames (hne : c'.appId ≠ c.appId) : (c.fileNames ++ c'.fileNames).Nodup := by
  have hother : ∀ a b : String, a ++ ".json" ≠ b ++ ".json.tmp" := by
    intro a b heq
    have hlast := congrArg (·.toList.getLast?) heq
    simp at hlast
  have hsame : ∀ e : String, c.appId ++ e ≠ c'.appId ++ e := by
    intro e heq
    have hlist := congrArg String.toList heq
    rw [String.toList_append, String.toList_append] at hlist
    exact hne (String.toList_injective (List.append_cancel_right hlist).symm)
  simp [fileNames, hother, hsame, Ne.symm (hother _ _)]

theorem nodup_filePlaces (h : c.problem? = none) (h' : c'.problem? = none)
    (hpath : c'.path = c.path) (hne : c'.appId ≠ c.appId) :
    (c.filePlaces ++ c'.filePlaces).Nodup := by
  rw [filePlaces_eq h, filePlaces_eq h', hpath, ← List.map_append]
  exact List.Nodup.map (fun _ _ => Place.child_inj.1) (nodup_fileNames hne)

/-! ### Confinement and isolation -/

/-- The preferences of an application are kept in two files of the configured directory. -/
structure Confined (c : Config) : Prop where
  /-- The document is the directory extended by one name. -/
  document : Path.EndsIn c.document (Path.lead c.path) (c.appId ++ ".json").toList
  /-- The temporary file has the same name with `.tmp` behind it. -/
  temporary : Path.temporary c.document = c.document ++ ".tmp"
  /-- The names are names in the directory. -/
  places : c.filePlaces = c.fileNames.map (Path.place c.path).child
  /-- The directory is what holds both of them. -/
  inside : ∀ p ∈ c.filePlaces, p.parent = Path.place c.path
  /-- No calls to the store change any other file. -/
  files : ∀ (files : FileTree) handles ss p, p ∉ c.filePlaces →
    files.SameFile ((⟨c.medium files, handles⟩ : Instances).run ss).medium.files p

/-- The preferences of one application are out of reach of another. -/
structure Isolated (c c' : Config) : Prop where
  /-- No two of the four files have one name. -/
  names : (c.fileNames ++ c'.fileNames).Nodup
  /-- No two of them are in one place. -/
  places : (c.filePlaces ++ c'.filePlaces).Nodup
  /-- No calls to the store of the one change the files of the other. -/
  files : ∀ (files : FileTree) handles ss p, p ∈ c'.filePlaces →
    files.SameFile ((⟨c.medium files, handles⟩ : Instances).run ss).medium.files p
  /-- No calls to the store of the one change what the other reads. -/
  reads : ∀ (files : FileTree) handles ss, files.Closed → files.Settled c'.document →
    let after := ((⟨c.medium files, handles⟩ : Instances).run ss).medium.files
    after.Closed ∧ after.Settled c'.document ∧
      (c'.medium after).read = (c'.medium files).read ∧
      ∀ (p : Prefs) k, p.copy (c'.medium after) k = p.copy (c'.medium files) k

theorem confined (h : c.problem? = none) : c.Confined where
  document := endsIn_document h
  temporary := by
    refine String.toList_injective ?_
    have hdocument := (endsIn_document h).toList
    have htemporary := (endsIn_temporary h).toList
    simp only [String.toList_append] at hdocument htemporary ⊢
    rw [htemporary, hdocument, List.append_assoc, List.append_assoc]
    rfl
  places := filePlaces_eq h
  inside p hp := by
    rw [filePlaces_eq h] at hp
    obtain ⟨name, hname, rfl⟩ := List.mem_map.1 hp
    refine Place.parent_child fun hup => ne_up_of_mem_fileNames hname ?_
    rw [hup]
    rfl
  files files handles ss p hp := by
    rw [filePlaces, List.mem_cons, List.mem_singleton, not_or] at hp
    exact Instances.sameFile_run (w := ⟨c.medium files, handles⟩) rfl hp.1 hp.2 ss

theorem beside (h : c.problem? = none) (h' : c'.problem? = none) (hpath : c'.path = c.path)
    (hne : c'.appId ≠ c.appId) : Path.Beside c'.document c.document := by
  have hplaces := (List.nodup_append.1 (nodup_filePlaces h h' hpath hne)).2.2
  have hends := endsIn_document h'
  rw [hpath] at hends
  exact ⟨hends.directory_eq (endsIn_document h),
    Ne.symm (hplaces _ (by simp [filePlaces]) _ (by simp [filePlaces])),
    Ne.symm (hplaces _ (by simp [filePlaces]) _ (by simp [filePlaces]))⟩

theorem isolated (h : c.problem? = none) (h' : c'.problem? = none) (hpath : c'.path = c.path)
    (hne : c'.appId ≠ c.appId) : c.Isolated c' where
  names := nodup_fileNames hne
  places := nodup_filePlaces h h' hpath hne
  files files handles ss p hp := by
    refine (confined h).files files handles ss p fun hmem => ?_
    exact (List.nodup_append.1 (nodup_filePlaces h h' hpath hne)).2.2 _ hmem _ hp rfl
  reads files handles ss hclosed hsettled := by
    have hkeeps := Instances.keepsSettled_run (w := ⟨c.medium files, handles⟩) rfl
      (beside h h' hpath hne) hclosed hsettled ss
    have hread : (c'.medium ((⟨c.medium files, handles⟩ : Instances).run ss).medium.files).read =
        (c'.medium files).read := FileTree.readDocument_congr hkeeps.found
    exact ⟨hkeeps.closed, hkeeps.settled, hread, fun p k => Prefs.copy_eq_of_read_eq hread p k⟩

/-- **The scopes of applications.**  Every configuration that is accepted is confined to two files of
its directory, and is isolated from every other one with the same directory and another name. -/
theorem confined_and_isolated {s : String} (h : parse s = .ok c) : c.Confined ∧
    ∀ s' c', parse s' = .ok c' → c'.path = c.path → c'.appId ≠ c.appId → c.Isolated c' :=
  ⟨confined (problem?_of_parse h), fun _ _ h' hpath hne =>
    isolated (problem?_of_parse h) (problem?_of_parse h') hpath hne⟩

/-- Two applications in one directory.  The name of the first ends in a space, and that of the second
is what the temporary file of the first would be called without the space and the last dot. -/
theorem confined_and_isolated_spaced :
    ∃ c c', parse "[store]\npath = \"prefs\"\napp_id = \"a \"\n" = .ok c ∧
      parse "[store]\npath = \"prefs\"\napp_id = \"a.json\"\n" = .ok c' ∧
      c.Confined ∧ c.Isolated c' ∧ c'.Isolated c := by
  have h : parse "[store]\npath = \"prefs\"\napp_id = \"a \"\n" =
      .ok { path := "prefs", appId := "a " } := by decide +kernel
  have h' : parse "[store]\npath = \"prefs\"\napp_id = \"a.json\"\n" =
      .ok { path := "prefs", appId := "a.json" } := by decide +kernel
  have hne : ("a.json" : String) ≠ "a " := by decide
  exact ⟨_, _, h, h', (confined_and_isolated h).1,
    (confined_and_isolated h).2 _ _ h' rfl hne, (confined_and_isolated h').2 _ _ h rfl hne.symm⟩

/-- Two applications in a directory that is reached through one that is not there.  A directory
stands in the place of the document of the second; once the first has committed something, the
second cannot read any more. -/
theorem read_changed_of_sidestep :
    let c : Config := { path := "d/new/..", appId := "a" }
    let c' : Config := { path := "d/new/..", appId := "b" }
    let files := (({} : FileTree).put ⟨false, ["d"]⟩ .folder).put ⟨false, ["d", "b.json"]⟩ .folder
    let after := ((⟨c.medium files, [{}]⟩ : Instances).run
      [.set 0 "k" (some (.scalar "v")), .commit 0]).medium.files
    parse "[store]\npath = \"d/new/..\"\napp_id = \"a\"\n" = .ok c ∧
      parse "[store]\npath = \"d/new/..\"\napp_id = \"b\"\n" = .ok c' ∧
      files.Closed ∧
      (c'.medium files).read = .ok ∅ ∧ (c'.medium after).read = .error .io := by
  refine ⟨?_, ?_, ?_, ?_, ?_⟩
  · decide +kernel
  · decide +kernel
  · exact (FileTree.closed_empty.put (by decide) (by decide) _).put (by decide) (by decide) _
  · decide +kernel
  · decide +kernel

end Config

end InitiatorStore
