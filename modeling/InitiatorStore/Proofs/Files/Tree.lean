import InitiatorStore.Files.Tree

/-!
# Laws of file trees

What each change of a file tree does to look-ups by place, and what following a path depends on.
A path leads where it led as long as no directory goes away (`FileTree.reach?_mono`), and if it
leads anywhere, then to the place that it denotes (`FileTree.eq_place_of_reach?`).

A tree is closed (`FileTree.Closed`) when whatever stands in it stands in a directory.  Every
operation that writes keeps that, so a file is reached whenever it is there.
-/

namespace InitiatorStore

namespace Place

variable {p : Place} {name : String}

theorem step_of_ne (h : name ≠ "..") : p.step name = p.child name := if_neg h

theorem parent_child (h : name ≠ "..") : (p.child name).parent = p := by
  have hall : (p.child name).names.all (· = "..") = false := by simp [child, h]
  rw [parent, hall]
  simp [child]

theorem isTop_parent (h : p.isTop = true) : p.parent.isTop = true := by
  rw [isTop] at h ⊢
  rw [parent, h]
  split
  · exact List.all_eq_true.2 fun x hx =>
      List.all_eq_true.1 h x (List.dropLast_subset _ hx)
  · simpa [child] using h

/-- What does not stand at the top lies below the directory that holds it. -/
theorem isBelow_parent (h : p.parent.isTop = false) : p.isBelow p.parent = true := by
  have hp : p.isTop = false := Bool.eq_false_iff.2 fun htop =>
    Bool.false_ne_true (h.symm.trans (isTop_parent htop))
  have hparent : p.parent = { p with names := p.names.dropLast } := by
    rw [parent]
    split
    · rfl
    · exact if_neg (Bool.eq_false_iff.1 hp)
  have hne : p.names ≠ [] := by
    intro hnil
    rw [isTop, hnil] at hp
    cases hp
  have hlonger : p.names ≠ p.names.dropLast := by
    intro heq
    have hlength := congrArg List.length heq
    have hpos := List.length_pos_iff.2 hne
    rw [List.length_dropLast] at hlength
    omega
  rw [hparent, isBelow]
  simp [hlonger, List.dropLast_prefix]

theorem length_child (p : Place) (name : String) :
    (p.child name).names.length = p.names.length + 1 := by
  simp [child]

end Place

namespace FileTree

variable {t u : FileTree} {p q : Place} {e : FileEntry}

/-! ### Look-ups by place -/

theorem at?_of_isTop (h : p.isTop = true) : t.at? p = some .folder := by
  rw [at?, if_pos h]

theorem isTop_eq_false (h : t.at? p ≠ some .folder) : p.isTop = false :=
  Bool.eq_false_iff.2 fun htop => h (at?_of_isTop htop)

theorem lookup_filter_ne (l : List (Place × FileEntry)) (p q : Place) :
    (l.filter (·.1 ≠ p)).lookup q = if q = p then none else l.lookup q := by
  induction l with
  | nil => simp
  | cons a l ih =>
    obtain ⟨r, e⟩ := a
    by_cases hr : r = p
    · subst hr
      rw [List.filter_cons_of_neg (by simp), ih, List.lookup_cons]
      by_cases hq : q = r
      · rw [if_pos hq, if_pos hq]
      · rw [if_neg hq, if_neg hq, beq_eq_false_iff_ne.2 hq]
    · rw [List.filter_cons_of_pos (by simp [hr]), List.lookup_cons, List.lookup_cons, ih]
      by_cases hq : q = r
      · subst hq
        simp [hr]
      · rw [beq_eq_false_iff_ne.2 hq]

theorem at?_put (hp : p.isTop = false) (e : FileEntry) (q : Place) :
    (t.put p e).at? q = if q = p then some e else t.at? q := by
  by_cases hq : q = p
  · subst hq
    simp [at?, put, hp]
  · have hne : (q == p) = false := by simpa using hq
    rw [at?, at?, if_neg hq, put, List.lookup_cons, hne, lookup_filter_ne, if_neg hq]

theorem at?_drop (hp : p.isTop = false) (q : Place) :
    (t.drop p).at? q = if q = p then none else t.at? q := by
  by_cases hq : q = p
  · rw [at?, drop, lookup_filter_ne, if_pos hq, if_pos hq, hq, hp]
    rfl
  · rw [at?, at?, if_neg hq, drop, lookup_filter_ne, if_neg hq]

/-! ### Following paths -/

/-- Every directory of one tree is a directory of the other. -/
def FoldersKept (t u : FileTree) : Prop := ∀ p, t.at? p = some .folder → u.at? p = some .folder

theorem FoldersKept.trans {v : FileTree} (h : t.FoldersKept u) (h' : u.FoldersKept v) :
    t.FoldersKept v := fun p hp => h' p (h p hp)

/-- What is put in place of no directory leaves every directory there. -/
theorem foldersKept_put (h : t.at? p ≠ some .folder) (e : FileEntry) :
    t.FoldersKept (t.put p e) := by
  intro q hq
  have hne : q ≠ p := fun heq => h (heq ▸ hq)
  rw [at?_put (isTop_eq_false h), if_neg hne, hq]

theorem foldersKept_drop (h : t.at? p ≠ some .folder) : t.FoldersKept (t.drop p) := by
  intro q hq
  have hne : q ≠ p := fun heq => h (heq ▸ hq)
  rw [at?_drop (isTop_eq_false h), if_neg hne, hq]

/-- A file that is put somewhere is no new directory. -/
theorem foldersKept_of_put (h : t.at? p ≠ some .folder) (content : ByteArray) :
    (t.put p (.file content)).FoldersKept t := by
  intro q hq
  rw [at?_put (isTop_eq_false h)] at hq
  split at hq
  · cases hq
  · exact hq

/-- A name is followed from a directory, if it can be a name. -/
theorem walk?_cons {name : String} {rest : List String} :
    t.walk? p (name :: rest) = some q ↔
      t.at? p = some .folder ∧ Path.isName name = true ∧ t.walk? (p.step name) rest = some q := by
  rw [walk?]
  by_cases h : t.at? p = some .folder ∧ Path.isName name = true
  · simp [h]
  · by_cases hf : t.at? p = some .folder <;> simp_all

theorem walk?_append {p : Place} (names rest : List String) :
    t.walk? p (names ++ rest) = (t.walk? p names).bind (t.walk? · rest) := by
  induction names generalizing p with
  | nil => rfl
  | cons name names ih =>
    rw [List.cons_append, walk?, walk?]
    split
    · exact ih
    · rfl

theorem walk?_mono (h : t.FoldersKept u) {p q : Place} {names : List String}
    (hq : t.walk? p names = some q) : u.walk? p names = some q := by
  induction names generalizing p with
  | nil => exact hq
  | cons name names ih =>
    obtain ⟨hp, hname, hrest⟩ := walk?_cons.1 hq
    exact walk?_cons.2 ⟨h p hp, hname, ih hrest⟩

/-- What it takes to be led to a place by a path. -/
theorem reach?_eq_some {path : String} :
    t.reach? path = some q ↔ (path ≠ "" && Path.isUsable path) = true ∧
      t.walk? ⟨Path.isRooted path, []⟩ (Path.steps path) = some q ∧
      (Path.leadsToFolder path = true → t.at? q = some .folder) := by
  rw [reach?]
  split
  · next h =>
    rw [Option.filter_eq_some_iff, and_iff_right h]
    cases Path.leadsToFolder path <;> simp
  · next h => exact ⟨nofun, fun h' => absurd h'.1 h⟩

theorem reach?_mono (h : t.FoldersKept u) {path : String} (hq : t.reach? path = some q) :
    u.reach? path = some q := by
  obtain ⟨husable, hwalk, hfolder⟩ := reach?_eq_some.1 hq
  exact reach?_eq_some.2 ⟨husable, walk?_mono h hwalk, fun hpath => h q (hfolder hpath)⟩

theorem eq_foldl_of_walk? {p q : Place} {names : List String} (h : t.walk? p names = some q) :
    q = names.foldl Place.step p := by
  induction names generalizing p with
  | nil => exact (Option.some.inj h).symm
  | cons name names ih => exact ih (walk?_cons.1 h).2.2

/-- A path that leads anywhere leads to the place that it denotes. -/
theorem eq_place_of_reach? {path : String} (h : t.reach? path = some q) : q = Path.place path :=
  eq_foldl_of_walk? (reach?_eq_some.1 h).2.1

theorem find?_eq_some {path : String} :
    t.find? path = some e ↔ ∃ p, t.reach? path = some p ∧ t.at? p = some e := by
  rw [find?, Option.bind_eq_some_iff]

/-- What a path leads to depends on the directories and on what stands at its place. -/
theorem find?_congr {path : String} (h : t.FoldersKept u) (h' : u.FoldersKept t)
    (hplace : u.at? (Path.place path) = t.at? (Path.place path)) :
    u.find? path = t.find? path := by
  ext e
  rw [find?_eq_some, find?_eq_some]
  constructor
  · rintro ⟨q, hq, hentry⟩
    refine ⟨q, reach?_mono h' hq, ?_⟩
    rwa [eq_place_of_reach? hq, ← hplace, ← eq_place_of_reach? hq]
  · rintro ⟨q, hq, hentry⟩
    refine ⟨q, reach?_mono h hq, ?_⟩
    rwa [eq_place_of_reach? hq, hplace, ← eq_place_of_reach? hq]

/-! ### Changes by path -/

theorem writeFile?_eq_some {path : String} {content : ByteArray} :
    t.writeFile? path content = some u ↔
      ∃ p, t.reach? path = some p ∧ t.at? p ≠ some .folder ∧ u = t.put p (.file content) := by
  rw [writeFile?, Option.bind_eq_some_iff]
  refine exists_congr fun p => and_congr_right fun _ => ?_
  split
  · next h => simp [h]
  · next h => simp [h, eq_comm]

theorem rename?_eq_some {source target : String} :
    t.rename? source target = some u ↔
      ∃ p q content, t.reach? source = some p ∧ t.reach? target = some q ∧
        t.at? p = some (.file content) ∧ t.at? q ≠ some .folder ∧
        u = (t.drop p).put q (.file content) := by
  constructor
  · intro h
    obtain ⟨p, hp, h⟩ := Option.bind_eq_some_iff.1 h
    obtain ⟨q, hq, h⟩ := Option.bind_eq_some_iff.1 h
    split at h
    · next content hcontent =>
      split at h
      · cases h
      · next hfolder =>
        exact ⟨p, q, content, hp, hq, hcontent, hfolder, (Option.some.inj h).symm⟩
    · cases h
  · rintro ⟨p, q, content, hp, hq, hcontent, hfolder, rfl⟩
    simp [rename?, hp, hq, hcontent, hfolder]

/-- A file is written at the place that its path denotes. -/
theorem at?_writeFile? {path : String} {content : ByteArray}
    (h : t.writeFile? path content = some u) (p : Place) :
    u.at? p = if p = Path.place path then some (.file content) else t.at? p := by
  obtain ⟨q, hq, hnot, rfl⟩ := writeFile?_eq_some.1 h
  rw [← eq_place_of_reach? hq, at?_put (isTop_eq_false hnot)]

/-- A move takes a file from the place that one path denotes to that of the other. -/
theorem at?_rename? {source target : String} (h : t.rename? source target = some u) (p : Place) :
    u.at? p = if p = Path.place target then t.at? (Path.place source)
      else if p = Path.place source then none else t.at? p := by
  obtain ⟨q, r, content, hq, hr, hcontent, hnot, rfl⟩ := rename?_eq_some.1 h
  have hq' : t.at? q ≠ some .folder := by rw [hcontent]; nofun
  have hr' : (t.drop q).at? r ≠ some .folder := by
    rw [at?_drop (isTop_eq_false hq')]
    split
    · nofun
    · exact hnot
  rw [at?_put (isTop_eq_false hr'), at?_drop (isTop_eq_false hq'), ← eq_place_of_reach? hq,
    ← eq_place_of_reach? hr, hcontent]

/-- The files after a move are those that were there, the one that is moved among them. -/
theorem file_of_rename? {source target : String} {content : ByteArray}
    (h : t.rename? source target = some u) (hfile : u.at? p = some (.file content)) :
    t.at? p = some (.file content) ∨ t.at? (Path.place source) = some (.file content) := by
  rw [at?_rename? h] at hfile
  split at hfile
  · exact .inr hfile
  · split at hfile
    · cases hfile
    · exact .inl hfile

theorem foldersKept_writeFile? {path : String} {content : ByteArray}
    (h : t.writeFile? path content = some u) : t.FoldersKept u := by
  obtain ⟨p, -, hnot, rfl⟩ := writeFile?_eq_some.1 h
  exact foldersKept_put hnot _

theorem foldersKept_of_writeFile? {path : String} {content : ByteArray}
    (h : t.writeFile? path content = some u) : u.FoldersKept t := by
  obtain ⟨p, -, hnot, rfl⟩ := writeFile?_eq_some.1 h
  exact foldersKept_of_put hnot content

theorem foldersKept_of_rename? {source target : String} (h : t.rename? source target = some u) :
    u.FoldersKept t := by
  intro p hp
  rw [at?_rename? h] at hp
  obtain ⟨q, r, content, hq, -, hcontent, -⟩ := rename?_eq_some.1 h
  split at hp
  · rw [← eq_place_of_reach? hq, hcontent] at hp
    cases hp
  · split at hp
    · cases hp
    · exact hp

theorem foldersKept_rename? {source target : String} (h : t.rename? source target = some u) :
    t.FoldersKept u := by
  obtain ⟨p, q, content, -, -, hcontent, hnot, rfl⟩ := rename?_eq_some.1 h
  have hp : t.at? p ≠ some .folder := by rw [hcontent]; nofun
  refine (foldersKept_drop hp).trans (foldersKept_put ?_ _)
  rw [at?_drop (isTop_eq_false hp)]
  split
  · nofun
  · exact hnot

/-- The same file is at a place in two trees, or none in either. -/
def SameFile (t u : FileTree) (p : Place) : Prop :=
  ∀ content, u.at? p = some (.file content) ↔ t.at? p = some (.file content)

theorem SameFile.refl (t : FileTree) (p : Place) : t.SameFile t p := fun _ => .rfl

theorem SameFile.trans {v : FileTree} (h : t.SameFile u p) (h' : u.SameFile v p) :
    t.SameFile v p := fun content => (h' content).trans (h content)

theorem sameFile_of_eq (h : u.at? p = t.at? p) : t.SameFile u p := fun content => by rw [h]

/-! ### Closed trees -/

/-- Whatever stands in the tree stands in a directory. -/
def Closed (t : FileTree) : Prop := ∀ p e, t.at? p = some e → t.at? p.parent = some .folder

theorem closed_empty : ({} : FileTree).Closed := by
  intro p e h
  cases htop : p.isTop with
  | true => exact at?_of_isTop (Place.isTop_parent htop)
  | false => simp [at?, htop] at h

theorem Closed.put (ht : t.Closed) (hp : t.at? p ≠ some .folder)
    (hparent : t.at? p.parent = some .folder) (e : FileEntry) : (t.put p e).Closed := by
  intro q e' h
  rw [at?_put (isTop_eq_false hp)] at h
  split at h
  · next hq =>
    subst hq
    exact foldersKept_put hp e _ hparent
  · exact foldersKept_put hp e _ (ht q e' h)

/-- Nothing stands in what is no directory. -/
theorem Closed.parent_ne (ht : t.Closed) (hp : t.at? p ≠ some .folder) (q : Place) (e : FileEntry)
    (h : t.at? q = some e) : q.parent ≠ p :=
  fun heq => hp (heq ▸ ht q e h)

/-- What nothing stands in can be dropped. -/
theorem Closed.drop (ht : t.Closed) (hp : p.isTop = false)
    (hempty : ∀ q e, t.at? q = some e → q.parent ≠ p) : (t.drop p).Closed := by
  intro q e h
  rw [at?_drop hp] at h ⊢
  split at h
  · cases h
  · rw [if_neg (hempty q e h)]
    exact ht q e h

/-- What is reached from a directory and is none itself stands in a directory. -/
theorem Closed.parent_of_walk? (ht : t.Closed) {p q : Place} {names : List String}
    (hp : t.at? p = some .folder) (h : t.walk? p names = some q) (hq : t.at? q ≠ some .folder) :
    t.at? q.parent = some .folder := by
  induction names generalizing p with
  | nil => exact absurd (Option.some.inj h ▸ hp) hq
  | cons name rest ih =>
    obtain ⟨-, -, hrest⟩ := walk?_cons.1 h
    by_cases hstep : t.at? (p.step name) = some .folder
    · exact ih hstep hrest
    · cases rest with
      | cons name' rest => exact absurd (walk?_cons.1 hrest).1 hstep
      | nil =>
        -- the last step goes down, since the one upwards would end in a directory
        have hname : name ≠ ".." := by
          rintro rfl
          exact hstep (ht p _ hp)
        rw [Place.step_of_ne hname] at hrest
        rw [← Option.some.inj hrest, Place.parent_child hname]
        exact hp

theorem Closed.parent_of_reach? (ht : t.Closed) {path : String} (h : t.reach? path = some q)
    (hq : t.at? q ≠ some .folder) : t.at? q.parent = some .folder :=
  ht.parent_of_walk? (at?_of_isTop rfl) (reach?_eq_some.1 h).2.1 hq

theorem Closed.writeFile? (ht : t.Closed) {path : String} {content : ByteArray}
    (h : t.writeFile? path content = some u) : u.Closed := by
  obtain ⟨p, hp, hfolder, rfl⟩ := writeFile?_eq_some.1 h
  exact ht.put hfolder (ht.parent_of_reach? hp hfolder) _

theorem Closed.rename? (ht : t.Closed) {source target : String}
    (h : t.rename? source target = some u) : u.Closed := by
  obtain ⟨p, q, content, hp, hq, hcontent, hfolder, rfl⟩ := rename?_eq_some.1 h
  have hfile : t.at? p ≠ some .folder := by rw [hcontent]; nofun
  have hgone : (t.drop p).at? q ≠ some .folder := by
    rw [at?_drop (isTop_eq_false hfile)]
    split
    · nofun
    · exact hfolder
  have hdropped := ht.drop (isTop_eq_false hfile) (ht.parent_ne hfile)
  exact hdropped.put hgone (foldersKept_drop hfile _ (ht.parent_of_reach? hq hfolder)) _

theorem Closed.removeFile? (ht : t.Closed) {path : String} (h : t.removeFile? path = some u) :
    u.Closed := by
  obtain ⟨p, -, h⟩ := Option.bind_eq_some_iff.1 h
  split at h
  · next content hcontent =>
    have hfile : t.at? p ≠ some .folder := by rw [hcontent]; nofun
    obtain rfl := Option.some.inj h
    exact ht.drop (isTop_eq_false hfile) (ht.parent_ne hfile)
  · cases h

theorem Closed.removeFolder? (ht : t.Closed) {path : String}
    (h : t.removeFolder? path = some u) : u.Closed := by
  rw [FileTree.removeFolder?] at h
  split at h
  · cases h
  · obtain ⟨p, -, h⟩ := Option.bind_eq_some_iff.1 h
    split at h
    · next hempty =>
      simp only [Bool.and_eq_true, Bool.not_eq_true', decide_eq_true_eq] at hempty
      obtain ⟨⟨htop, -⟩, hnone⟩ := hempty
      obtain rfl := Option.some.inj h
      refine ht.drop htop fun q e hq hparent => ?_
      -- an entry that stands in the directory lies below it
      have hbelow := Place.isBelow_parent (hparent ▸ htop)
      have hq' : t.entries.lookup q = some e := by
        rw [at?] at hq
        split at hq
        · next htop' =>
          rw [← hparent, Place.isTop_parent htop'] at htop
          cases htop
        · exact hq
      obtain ⟨before, after, hentries, -⟩ := List.lookup_eq_some_iff.1 hq'
      rw [List.any_eq_false, hentries] at hnone
      exact hnone (q, e) (by simp) (hparent ▸ hbelow)
    · cases h

/-! ### Making directories -/

/-- Making directories takes nothing away. -/
theorem at?_makeFoldersFrom {p q : Place} {e : FileEntry} (names : List String)
    (h : t.at? q = some e) : (t.makeFoldersFrom p names).2.at? q = some e := by
  fun_induction makeFoldersFrom t p names with
  | case1 => exact h
  | case2 t p name rest hname hfolder ih => exact ih h
  | case3 => exact h
  | case4 t p name rest hname hnone ih =>
    have hne : q ≠ p.step name := by
      rintro rfl
      rw [hnone] at h
      cases h
    have htop : (p.step name).isTop = false := isTop_eq_false (by rw [hnone]; nofun)
    refine ih ?_
    rw [at?_put htop, if_neg hne, h]
  | case5 => exact h

/-- The files after directories have been made are those that were there. -/
theorem file_of_makeFoldersFrom {p q : Place} {content : ByteArray} {names : List String}
    (h : (t.makeFoldersFrom p names).2.at? q = some (.file content)) :
    t.at? q = some (.file content) := by
  fun_induction makeFoldersFrom t p names with
  | case1 => exact h
  | case2 t p name rest hname hfolder ih => exact ih h
  | case3 => exact h
  | case4 t p name rest hname hnone ih =>
    have hput := ih h
    rw [at?_put (isTop_eq_false (by rw [hnone]; nofun))] at hput
    split at hput
    · cases hput
    · exact hput
  | case5 => exact h

theorem foldersKept_makeFoldersFrom (p : Place) (names : List String) :
    t.FoldersKept (t.makeFoldersFrom p names).2 :=
  fun _ h => at?_makeFoldersFrom names h

/-- Directories that have been made and stay are not made again. -/
theorem makeFoldersFrom_again {p : Place} {names : List String}
    (h : (t.makeFoldersFrom p names).1 = true)
    (hkept : (t.makeFoldersFrom p names).2.FoldersKept u) :
    u.makeFoldersFrom p names = (true, u) := by
  fun_induction FileTree.makeFoldersFrom t p names with
  | case1 => rfl
  | case2 t p name rest hname hat ih =>
    have hfolder := hkept _ (at?_makeFoldersFrom rest hat)
    rw [makeFoldersFrom, if_pos hname, hfolder]
    exact ih h hkept
  | case3 | case5 => cases h
  | case4 t p name rest hname hat ih =>
    have hfree : t.at? (p.step name) ≠ some .folder := by rw [hat]; nofun
    have hmade : (t.put (p.step name) .folder).at? (p.step name) = some .folder := by
      rw [at?_put (isTop_eq_false hfree), if_pos rfl]
    have hfolder := hkept _ (at?_makeFoldersFrom rest hmade)
    rw [makeFoldersFrom, if_pos hname, hfolder]
    exact ih h hkept

theorem Closed.makeFoldersFrom (ht : t.Closed) {p : Place} (hp : t.at? p = some .folder)
    (names : List String) : (t.makeFoldersFrom p names).2.Closed := by
  fun_induction FileTree.makeFoldersFrom t p names with
  | case1 => exact ht
  | case2 t p name rest hname hfolder ih => exact ih ht hfolder
  | case3 => exact ht
  | case4 t p name rest hname hnone ih =>
    have hfolder : t.at? (p.step name) ≠ some .folder := by rw [hnone]; nofun
    -- a directory is missing below only: the one above is there, as the tree is closed
    have hne : name ≠ ".." := by
      rintro rfl
      exact hfolder (ht p _ hp)
    have hparent : t.at? (p.step name).parent = some .folder := by
      rw [Place.step_of_ne hne, Place.parent_child hne]
      exact hp
    refine ih (ht.put hfolder hparent _) ?_
    rw [at?_put (isTop_eq_false hfolder), if_pos rfl]
  | case5 => exact ht

/-- Where a path leads to a directory already, no directory is made on the way. -/
theorem makeFoldersFrom_append {p g : Place} {names : List String}
    (h : t.walk? p names = some g) (hg : t.at? g = some .folder) (rest : List String) :
    t.makeFoldersFrom p (names ++ rest) = t.makeFoldersFrom g rest := by
  induction names generalizing p with
  | nil => rw [List.nil_append, Option.some.inj h]
  | cons name names ih =>
    obtain ⟨-, hname, hrest⟩ := walk?_cons.1 h
    have hstep : t.at? (p.step name) = some .folder := by
      cases names with
      | nil => exact Option.some.inj hrest ▸ hg
      | cons name' names => exact (walk?_cons.1 hrest).1
    rw [List.cons_append, makeFoldersFrom, if_pos hname, hstep]
    exact ih hrest

/-- Without steps upwards, no more directories are made than there are names, so nothing changes at
a place that lies deeper. -/
theorem at?_makeFoldersFrom_of_length_lt {p q : Place} {names : List String}
    (hup : ".." ∉ names) (hq : p.names.length + names.length < q.names.length) :
    (t.makeFoldersFrom p names).2.at? q = t.at? q := by
  fun_induction makeFoldersFrom t p names with
  | case1 => rfl
  | case3 => rfl
  | case5 => rfl
  | case2 t p name rest hname hfolder ih =>
    rw [List.mem_cons, not_or] at hup
    rw [Place.step_of_ne (Ne.symm hup.1)] at ih ⊢
    refine ih hup.2 ?_
    rw [Place.length_child]
    simp only [List.length_cons] at hq
    omega
  | case4 t p name rest hname hnone ih =>
    rw [List.mem_cons, not_or] at hup
    have htop : (p.step name).isTop = false := isTop_eq_false (by rw [hnone]; nofun)
    rw [Place.step_of_ne (Ne.symm hup.1)] at ih htop ⊢
    simp only [List.length_cons] at hq
    have hne : q ≠ p.child name := by
      rintro rfl
      rw [Place.length_child] at hq
      omega
    rw [ih hup.2 (by rw [Place.length_child]; omega), at?_put htop, if_neg hne]

end FileTree

end InitiatorStore
