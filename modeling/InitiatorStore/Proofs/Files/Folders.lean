import InitiatorStore.Proofs.Files.Path
import InitiatorStore.Proofs.Files.Tree

/-!
# Making the directories on a path

Making the directory of a path does not change what the path leads to
(`FileTree.find?_makeFolders_directory`), provided that the path is grounded: that its steps up to
the last `..` lead to a directory that is there already.  Otherwise a directory that is made may be
the one that a later `..` leaves again, and what lies beyond it comes into reach.
-/

namespace InitiatorStore.FileTree

variable {t u : FileTree} {path : String}

/-- The steps of a path up to the last `..` lead to a directory that is there. -/
def Grounded (t : FileTree) (path : String) : Prop :=
  ∃ names rest g, Path.steps path = names ++ rest ∧ ".." ∉ rest ∧
    t.walk? ⟨Path.isRooted path, []⟩ names = some g ∧ t.at? g = some .folder

/-- A path without steps upwards is grounded. -/
theorem grounded_of_notMem (h : ".." ∉ Path.steps path) : t.Grounded path :=
  ⟨[], Path.steps path, _, rfl, h, rfl, at?_of_isTop rfl⟩

/-- A path leads somewhere, or is grounded: what it leads to does not change when its directory is
made. -/
def Settled (t : FileTree) (path : String) : Prop := t.find? path ≠ none ∨ t.Grounded path

/-- A path stays grounded where directories stay. -/
theorem Grounded.mono (hg : t.Grounded path) (h : t.FoldersKept u) : u.Grounded path := by
  obtain ⟨names, rest, g, hsteps, hup, hwalk, hfolder⟩ := hg
  exact ⟨names, rest, g, hsteps, hup, walk?_mono h hwalk, h g hfolder⟩

theorem length_of_walk? {p q : Place} {names : List String} (hup : ".." ∉ names)
    (h : t.walk? p names = some q) : q.names.length = p.names.length + names.length := by
  induction names generalizing p with
  | nil => rw [← Option.some.inj h]; rfl
  | cons name rest ih =>
    rw [List.mem_cons, not_or] at hup
    obtain ⟨-, -, hrest⟩ := walk?_cons.1 h
    rw [Place.step_of_ne (Ne.symm hup.1)] at hrest
    rw [ih hup.2 hrest, Place.length_child, List.length_cons]
    omega

/-- In a closed tree the directories on the way down to something are there. -/
theorem Closed.walk?_of_at? (ht : t.Closed) {p q : Place} {e : FileEntry} {names : List String}
    (hup : ".." ∉ names) (h : u.walk? p names = some q) (hq : t.at? q = some e) :
    t.walk? p names = some q := by
  induction names generalizing p with
  | nil => exact h
  | cons name rest ih =>
    rw [List.mem_cons, not_or] at hup
    obtain ⟨-, hname, hrest⟩ := walk?_cons.1 h
    have hrest' := ih hup.2 hrest
    rw [Place.step_of_ne (Ne.symm hup.1)] at hrest'
    -- something stands at the next step, so this one is a directory
    have hchild : ∃ e', t.at? (p.child name) = some e' := by
      cases rest with
      | nil => exact ⟨e, Option.some.inj hrest' ▸ hq⟩
      | cons name' rest => exact ⟨.folder, (walk?_cons.1 hrest').1⟩
    obtain ⟨e', he'⟩ := hchild
    have hp := ht _ e' he'
    rw [Place.parent_child (Ne.symm hup.1)] at hp
    refine walk?_cons.2 ⟨hp, hname, ?_⟩
    rw [Place.step_of_ne (Ne.symm hup.1)]
    exact hrest'

/-- A file that a path leads to in a closed tree grounds the path. -/
theorem Closed.grounded_of_find? (ht : t.Closed) {content : ByteArray}
    (h : t.find? path = some (.file content)) : t.Grounded path := by
  obtain ⟨q, hq, hfile⟩ := find?_eq_some.1 h
  have hwalk := (reach?_eq_some.1 hq).2.1
  rcases List.eq_nil_or_concat (Path.steps path) with hnil | ⟨names, last, hsteps⟩
  · rw [hnil] at hwalk
    rw [← Option.some.inj hwalk, at?_of_isTop rfl] at hfile
    cases hfile
  · rw [List.concat_eq_append] at hsteps
    rw [hsteps, walk?_append, Option.bind_eq_some_iff] at hwalk
    obtain ⟨g, hg, hlast⟩ := hwalk
    obtain ⟨hfolder, -, hstep⟩ := walk?_cons.1 hlast
    refine ⟨names, [last], g, hsteps, ?_, hg, hfolder⟩
    -- a last step upwards would lead to a directory, not to a file
    rw [List.mem_singleton]
    rintro rfl
    have hparent : t.at? q = some .folder := Option.some.inj hstep ▸ ht g _ hfolder
    rw [hparent] at hfile
    cases hfile

/-! ### Making a directory by its path -/

/-- Making a directory makes the directories of some of its steps from the start. -/
theorem exists_makeFolders_eq (t : FileTree) (path : String) :
    ∃ names, names <+: Path.steps path ∧ (t.makeFolders path).2 =
      (t.makeFoldersFrom ⟨Path.isRooted path, []⟩ names).2 := by
  rw [makeFolders]
  split
  · exact ⟨[], List.nil_prefix, rfl⟩
  · split
    · refine ⟨(Path.steps path).dropLast, List.dropLast_prefix _, ?_⟩
      split <;> next h => rw [h]
    · exact ⟨Path.steps path, List.prefix_refl _, rfl⟩

theorem foldersKept_makeFolders (t : FileTree) (path : String) :
    t.FoldersKept (t.makeFolders path).2 := by
  obtain ⟨names, -, h⟩ := exists_makeFolders_eq t path
  rw [h]
  exact foldersKept_makeFoldersFrom _ names

/-- Making a directory takes nothing away. -/
theorem at?_makeFolders {q : Place} {e : FileEntry} (h : t.at? q = some e) (path : String) :
    (t.makeFolders path).2.at? q = some e := by
  obtain ⟨names, -, hmake⟩ := exists_makeFolders_eq t path
  rw [hmake]
  exact at?_makeFoldersFrom names h

/-- What a path leads to stays when a directory is made anywhere. -/
theorem find?_makeFolders {e : FileEntry} (h : t.find? path = some e) (dir : String) :
    (t.makeFolders dir).2.find? path = some e := by
  obtain ⟨q, hq, hentry⟩ := find?_eq_some.1 h
  exact find?_eq_some.2
    ⟨q, reach?_mono (foldersKept_makeFolders t dir) hq, at?_makeFolders hentry dir⟩

theorem file_of_makeFolders {p : Place} {content : ByteArray}
    (h : (t.makeFolders path).2.at? p = some (.file content)) :
    t.at? p = some (.file content) := by
  obtain ⟨names, -, hmake⟩ := exists_makeFolders_eq t path
  rw [hmake] at h
  exact file_of_makeFoldersFrom h

theorem sameFile_makeFolders (t : FileTree) (path : String) (p : Place) :
    t.SameFile (t.makeFolders path).2 p :=
  fun _ => ⟨file_of_makeFolders, fun h => at?_makeFolders h path⟩

/-- A directory that has been made and stays is not made again. -/
theorem makeFolders_again (h : (t.makeFolders path).1 = true)
    (hkept : (t.makeFolders path).2.FoldersKept u) : u.makeFolders path = (true, u) := by
  rw [makeFolders] at h hkept ⊢
  split
  · next husable =>
    rw [if_pos husable] at h
    cases h
  · next husable =>
    rw [if_neg husable] at h hkept
    split
    · next hdot =>
      rw [if_pos hdot] at h hkept
      split at h
      · cases h
      · next t₁ hmake =>
        rw [hmake] at hkept
        have hagain := makeFoldersFrom_again (u := u) (congrArg Prod.fst hmake)
          ((congrArg Prod.snd hmake).symm ▸ hkept)
        obtain ⟨q, hq, hfolder⟩ := find?_eq_some.1 (of_decide_eq_true h)
        rw [hagain]
        exact Prod.ext (decide_eq_true (find?_eq_some.2 ⟨q, reach?_mono hkept hq, hkept q hfolder⟩))
          rfl
    · next hdot =>
      rw [if_neg hdot] at h hkept
      exact makeFoldersFrom_again h hkept

theorem Closed.makeFolders (ht : t.Closed) (path : String) : (t.makeFolders path).2.Closed := by
  obtain ⟨names, -, h⟩ := exists_makeFolders_eq t path
  rw [h]
  exact ht.makeFoldersFrom (at?_of_isTop rfl) names

/-- However others change the files, whatever stands there stands in a directory. -/
theorem Closed.change (ht : t.Closed) (c : FileChange) : (t.change c).2.Closed := by
  have hkept : ∀ {u? : Option FileTree}, (∀ u, u? = some u → u.Closed) → (u?.getD t).Closed := by
    intro u? h
    cases u? with
    | none => exact ht
    | some u => exact h u rfl
  cases c with
  | makeFolder path => exact ht.makeFolders path
  | writeFile => exact hkept fun _ h => ht.writeFile? h
  | moveFile => exact hkept fun _ h => ht.rename? h
  | removeFile => exact hkept fun _ h => ht.removeFile? h
  | removeFolder => exact hkept fun _ h => ht.removeFolder? h

/-- The steps that a directory needs either lead nowhere new, or go down from a directory that is
there and end above the place that the whole path leads to. -/
theorem Grounded.makeFoldersFrom_eq (hg : t.Grounded path) {names : List String}
    (hnames : names <+: (Path.steps path).dropLast) :
    (t.makeFoldersFrom ⟨Path.isRooted path, []⟩ names).2 = t ∨
      ∃ up down rest g, Path.steps path = up ++ (down ++ rest) ∧ rest ≠ [] ∧
        ".." ∉ down ++ rest ∧ t.walk? ⟨Path.isRooted path, []⟩ up = some g ∧
        (t.makeFoldersFrom ⟨Path.isRooted path, []⟩ names).2 = (t.makeFoldersFrom g down).2 := by
  obtain ⟨up, low, g, hsteps, hup, hwalk, hfolder⟩ := hg
  by_cases hnil : names = []
  · exact .inl (by rw [hnil]; rfl)
  have hprefix : names <+: up ++ low := hsteps ▸ hnames.trans (List.dropLast_prefix _)
  rcases Nat.le_total names.length up.length with hlen | hlen
  · -- all the steps go through directories that are there
    obtain ⟨more, rfl⟩ := List.prefix_of_prefix_length_le hprefix (List.prefix_append _ _) hlen
    rw [walk?_append, Option.bind_eq_some_iff] at hwalk
    obtain ⟨r, hr, hmore⟩ := hwalk
    have hrfolder : t.at? r = some .folder := by
      cases more with
      | nil => exact Option.some.inj hmore ▸ hfolder
      | cons => exact (walk?_cons.1 hmore).1
    refine .inl ?_
    have h := makeFoldersFrom_append hr hrfolder []
    rw [List.append_nil] at h
    rw [h]
    rfl
  · obtain ⟨down, rfl⟩ := List.prefix_of_prefix_length_le (List.prefix_append _ _) hprefix hlen
    obtain ⟨rest, rfl⟩ := (List.prefix_append_right_inj up).1 hprefix
    refine .inr ⟨up, down, rest, g, hsteps, ?_, hup, hwalk,
      by rw [makeFoldersFrom_append hwalk hfolder]⟩
    rintro rfl
    have hle := hnames.length_le
    have hpos := List.length_pos_of_ne_nil hnil
    rw [hsteps, List.append_nil, List.length_dropLast] at hle
    omega

/-- **Making the directory of a path** does not change what the path leads to. -/
theorem find?_makeFolders_directory (ht : t.Closed) (hg : t.Grounded path) :
    (t.makeFolders (Path.directory path)).2.find? path = t.find? path := by
  obtain ⟨names, hnames, hmake⟩ := exists_makeFolders_eq t (Path.directory path)
  rw [Path.steps_directory] at hnames
  rw [Path.isRooted_directory] at hmake
  have hkept := foldersKept_makeFolders t (Path.directory path)
  rw [hmake] at hkept ⊢
  rcases hg.makeFoldersFrom_eq hnames with h | ⟨up, down, rest, g, hsteps, hrest, hup, hwalk, h⟩
  · rw [h]
  · rw [h] at hkept ⊢
    ext e
    constructor
    · intro he
      obtain ⟨q, hq, hentry⟩ := find?_eq_some.1 he
      obtain ⟨husable, hpath, hfolder⟩ := reach?_eq_some.1 hq
      rw [hsteps, walk?_append, walk?_mono hkept hwalk, Option.bind_some] at hpath
      -- the place of the path lies deeper than every directory that is made
      have hlength := length_of_walk? hup hpath
      have hlow : g.names.length + down.length < q.names.length := by
        have hpos := List.length_pos_of_ne_nil hrest
        rw [List.length_append] at hlength
        omega
      have hsame := at?_makeFoldersFrom_of_length_lt (t := t)
        (fun hmem => hup (List.mem_append_left _ hmem)) hlow
      rw [hsame] at hentry hfolder
      refine find?_eq_some.2 ⟨q, reach?_eq_some.2 ⟨husable, ?_, hfolder⟩, hentry⟩
      rw [hsteps, walk?_append, hwalk, Option.bind_some]
      exact ht.walk?_of_at? hup hpath hentry
    · intro he
      obtain ⟨q, hq, hentry⟩ := find?_eq_some.1 he
      exact find?_eq_some.2 ⟨q, reach?_mono hkept hq, at?_makeFoldersFrom _ hentry⟩

/-- Making the directory of a path changes nothing at a path that is settled. -/
theorem Settled.find?_makeFolders_directory (ht : t.Closed) (h : t.Settled path) :
    (t.makeFolders (Path.directory path)).2.find? path = t.find? path := by
  rcases h with hthere | hg
  · obtain ⟨e, he⟩ := Option.ne_none_iff_exists'.1 hthere
    rw [he, find?_makeFolders he]
  · exact FileTree.find?_makeFolders_directory ht hg

end InitiatorStore.FileTree
