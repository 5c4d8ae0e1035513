import InitiatorStore.Prefs.Medium
import InitiatorStore.Proofs.Files.Folders
import InitiatorStore.Proofs.Json.RoundTrip

/-!
# Writing to a medium and reading from it

A document that has been written is what is read next (`Medium.read_write`), if it is one that the
medium can give back (`Medium.Fits`): a file is read only up to `Node.maxDepth` nested mappings,
memory has no such bound.  A write that fails leaves what is read as it was
(`Medium.read_write_failed`), if the path of the document is grounded.  Grounded or not, no write
brings another document into the medium than the one it was given (`Medium.holds_write`).
-/

namespace InitiatorStore

/-- A path to another file in the directory of a document, which is not its temporary file. -/
structure Path.Beside (other path : String) : Prop where
  directory : directory other = directory path
  ne_document : place other ≠ place path
  ne_temporary : place other ≠ place (temporary path)

namespace FileTree

variable {t u : FileTree} {path : String} {d : Document}

/-! ### Documents in files -/

/-- What is read depends on nothing but what the path leads to. -/
theorem readDocument_congr (h : u.find? path = t.find? path) :
    u.readDocument path = t.readDocument path := by
  rw [readDocument, readDocument, h]

theorem text?_file_toUTF8 (s : String) : (FileEntry.file s.toUTF8).text? = some s := by
  simp only [FileEntry.text?, String.fromUTF8?, String.toUTF8_eq_toByteArray,
    dif_pos s.isValidUTF8]
  rfl

theorem readDocument_of_find? (hdepth : (Node.mapping d).depth ≤ Node.maxDepth)
    (h : t.find? path = some (.file (Document.pretty d).toUTF8)) :
    t.readDocument path = .ok d := by
  rw [readDocument, h]
  simp only [text?_file_toUTF8, Document.isBlank_pretty, Document.read?_pretty hdepth]
  rfl

theorem readDocument_of_find?_of_lt (hdepth : Node.maxDepth < (Node.mapping d).depth)
    (h : t.find? path = some (.file (Document.pretty d).toUTF8)) :
    t.readDocument path = .error .json := by
  rw [readDocument, h]
  simp only [text?_file_toUTF8, Document.isBlank_pretty, Document.read?_pretty_of_lt hdepth]
  rfl

/-- A document that is read is the empty one, or is spelled by the file at the place of the
path. -/
theorem exists_of_readDocument (h : t.readDocument path = .ok d) :
    d = ∅ ∨ ∃ content s, t.at? (Path.place path) = some (.file content) ∧
      String.fromUTF8? content = some s ∧ Document.read? s = some d := by
  rw [readDocument] at h
  split at h
  · exact .inl (Except.ok.inj h).symm
  · next e hfind =>
    split at h
    · cases h
    · next s htext =>
      split at h
      · exact .inl (Except.ok.inj h).symm
      · split at h
        · cases h
        · next hread =>
          cases e with
          | folder => cases htext
          | file content =>
            obtain ⟨p, hp, hfile⟩ := find?_eq_some.1 hfind
            rw [eq_place_of_reach? hp] at hfile
            exact .inr ⟨content, s, hfile, htext, Except.ok.inj h ▸ hread⟩

/-- A document that is read nests no deeper than what is read. -/
theorem depth_le_of_readDocument (h : t.readDocument path = .ok d) :
    (Node.mapping d).depth ≤ Node.maxDepth := by
  have hempty : (Node.mapping ∅).depth ≤ Node.maxDepth := by decide
  rw [readDocument] at h
  split at h
  · exact Except.ok.inj h ▸ hempty
  · split at h
    · cases h
    · split at h
      · exact Except.ok.inj h ▸ hempty
      · split at h
        · cases h
        · next hread => exact Except.ok.inj h ▸ Document.depth_le_of_read? hread

/-- No document is read where a directory stands. -/
theorem find?_ne_folder (h : t.readDocument path = .ok d) : t.find? path ≠ some .folder := by
  intro hfolder
  rw [readDocument, hfolder] at h
  cases h

/-- A document that is there and cannot be read, and why: it is a directory or holds no text, or it
holds a text that is neither blank nor a document. -/
inductive Corrupt (t : FileTree) (path : String) : PrefsError → Prop
  | folder : t.find? path = some .folder → Corrupt t path .io
  | noText {content : ByteArray} : t.find? path = some (.file content) →
      String.fromUTF8? content = none → Corrupt t path .io
  | noDocument {content : ByteArray} {s : String} : t.find? path = some (.file content) →
      String.fromUTF8? content = some s → Text.isBlank s = false → Document.read? s = none →
      Corrupt t path .json

/-- Reading fails exactly where a document is there and cannot be read. -/
theorem readDocument_eq_error {e : PrefsError} :
    t.readDocument path = .error e ↔ t.Corrupt path e := by
  constructor
  · intro h
    rw [readDocument] at h
    split at h
    · cases h
    · next entry hfind =>
      split at h
      · next htext =>
        obtain rfl := Except.error.inj h
        cases entry with
        | folder => exact .folder hfind
        | file content => exact .noText hfind htext
      · next s htext =>
        split at h
        · cases h
        · next hblank =>
          split at h
          · next hread =>
            obtain rfl := Except.error.inj h
            cases entry with
            | folder => cases htext
            | file content => exact .noDocument hfind htext (Bool.eq_false_iff.2 hblank) hread
          · cases h
  · rintro (hfind | ⟨hfind, htext⟩ | ⟨hfind, htext, hblank, hread⟩)
    · rw [readDocument, hfind]
      rfl
    · simp [readDocument, hfind, FileEntry.text?, htext]
    · simp [readDocument, hfind, FileEntry.text?, htext, hblank, hread]

/-! ### Writing by way of a temporary file -/

/-- What a write comes to: the temporary file is not written, or it is not moved into place, or the
document is written. -/
inductive Writes (t : FileTree) (path : String) (d : Document) : Bool × FileTree → Prop
  | stuck : Writes t path d (false, (t.makeFolders (Path.directory path)).2)
  | unmoved {u : FileTree} :
      (t.makeFolders (Path.directory path)).2.writeFile? (Path.temporary path)
        (Document.pretty d).toUTF8 = some u →
      u.rename? (Path.temporary path) path = none → Writes t path d (false, u)
  | moved {u v : FileTree} :
      (t.makeFolders (Path.directory path)).2.writeFile? (Path.temporary path)
        (Document.pretty d).toUTF8 = some u →
      u.rename? (Path.temporary path) path = some v → Writes t path d (true, v)

theorem writes (t : FileTree) (path : String) (d : Document) :
    Writes t path d (t.writeDocument path d) := by
  have hmade : ∀ {done t₁}, t.makeFolders (Path.directory path) = (done, t₁) →
      (t.makeFolders (Path.directory path)).2 = t₁ := fun h => congrArg Prod.snd h
  unfold writeDocument
  split
  · next hmake => exact hmade hmake ▸ .stuck
  · next t₁ hmake =>
    split
    · exact hmade hmake ▸ .stuck
    · next hwrite =>
      rw [← hmade hmake] at hwrite
      split
      · next hmove => exact .unmoved hwrite hmove
      · next hmove => exact .moved hwrite hmove

/-- A temporary file that is moved into place stands there with what was written to it. -/
theorem find?_of_rename?_eq_some {v : FileTree} {temporary : String} {content : ByteArray}
    (hwrite : t.writeFile? temporary content = some u)
    (hmove : u.rename? temporary path = some v) : v.find? path = some (.file content) := by
  obtain ⟨p, hp, hnot, rfl⟩ := writeFile?_eq_some.1 hwrite
  obtain ⟨p', q, content', hp', hq, hcontent', hnot', rfl⟩ := rename?_eq_some.1 hmove
  have hfile : (t.put p (.file content)).at? p = some (.file content) := by
    rw [at?_put (isTop_eq_false hnot), if_pos rfl]
  -- the file that is moved is the one that was written
  rw [reach?_mono (foldersKept_put hnot _) hp] at hp'
  obtain rfl := Option.some.inj hp'
  obtain rfl : content = content' := by simpa [hfile] using hcontent'
  have hkept : (t.put p (.file content)).FoldersKept ((t.put p (.file content)).drop p) :=
    foldersKept_drop (by rw [hfile]; nofun)
  have htop : p.isTop = false := isTop_eq_false hnot
  have hfree : ((t.put p (.file content)).drop p).at? q ≠ some .folder := by
    rw [at?_drop htop]
    split
    · nofun
    · exact hnot'
  refine find?_eq_some.2 ⟨q, reach?_mono (hkept.trans (foldersKept_put hfree _)) hq, ?_⟩
  rw [at?_put (isTop_eq_false hfree), if_pos rfl]

/-- A write that succeeds leaves the text of the document at its path. -/
theorem find?_writeDocument (h : t.writeDocument path d = (true, u)) :
    u.find? path = some (.file (Document.pretty d).toUTF8) := by
  have hw := h ▸ t.writes path d
  cases hw with
  | moved hwrite hmove => exact find?_of_rename?_eq_some hwrite hmove

/-- A temporary file that cannot be moved into place has not changed what stands there. -/
theorem find?_of_rename?_eq_none {temporary : String} {content : ByteArray}
    (hfolder : t.find? path ≠ some .folder) (hwrite : t.writeFile? temporary content = some u)
    (hmove : u.rename? temporary path = none) : u.find? path = t.find? path := by
  obtain ⟨p, hp, hnot, rfl⟩ := writeFile?_eq_some.1 hwrite
  have hkept := foldersKept_put hnot (.file content)
  have hfile : (t.put p (.file content)).at? p = some (.file content) := by
    rw [at?_put (isTop_eq_false hnot), if_pos rfl]
  have hback := foldersKept_of_put hnot content
  -- had the path led anywhere, the file could have been moved there
  have hlost : (t.put p (.file content)).reach? path = none := by
    rw [Option.eq_none_iff_forall_ne_some]
    intro q hq
    by_cases hq' : (t.put p (.file content)).at? q = some .folder
    · exact hfolder (find?_eq_some.2 ⟨q, reach?_mono hback hq, hback q hq'⟩)
    · have hmoved := rename?_eq_some.2 ⟨p, q, content, reach?_mono hkept hp, hq, hfile, hq', rfl⟩
      rw [hmove] at hmoved
      cases hmoved
  have hbefore : t.reach? path = none := by
    rw [Option.eq_none_iff_forall_ne_some]
    intro q hq
    rw [reach?_mono hkept hq] at hlost
    cases hlost
  rw [find?, find?, hlost, hbefore]
  rfl

/-- A write that fails leaves what stands at the path of the document. -/
theorem find?_writeDocument_failed (ht : t.Closed) (hg : t.Grounded path)
    (hfolder : t.find? path ≠ some .folder) (h : t.writeDocument path d = (false, u)) :
    u.find? path = t.find? path := by
  have hmade := find?_makeFolders_directory ht hg
  have hw := h ▸ t.writes path d
  cases hw with
  | stuck => exact hmade
  | unmoved hwrite hmove =>
    rw [← hmade] at hfolder ⊢
    exact find?_of_rename?_eq_none hfolder hwrite hmove

/-- The files after a write are those that were there, but for some that hold the document. -/
theorem file_of_writeDocument {p : Place} {content : ByteArray}
    (h : (t.writeDocument path d).2.at? p = some (.file content)) :
    t.at? p = some (.file content) ∨ content = (Document.pretty d).toUTF8 := by
  have hw := t.writes path d
  generalize t.writeDocument path d = w at h hw
  have hwritten : ∀ {u : FileTree} {p : Place}, (t.makeFolders (Path.directory path)).2.writeFile?
      (Path.temporary path) (Document.pretty d).toUTF8 = some u →
      u.at? p = some (.file content) →
      t.at? p = some (.file content) ∨ content = (Document.pretty d).toUTF8 := by
    intro u p hwrite h
    rw [at?_writeFile? hwrite] at h
    split at h
    · exact .inr (FileEntry.file.inj (Option.some.inj h)).symm
    · exact .inl (file_of_makeFolders h)
  cases hw with
  | stuck => exact .inl (file_of_makeFolders h)
  | unmoved hwrite => exact hwritten hwrite h
  | moved hwrite hmove =>
    rcases file_of_rename? hmove h with h | h
    · exact hwritten hwrite h
    · rw [at?_writeFile? hwrite, if_pos rfl] at h
      exact .inr (FileEntry.file.inj (Option.some.inj h)).symm

/-- A write leaves every file but the temporary one, and the document if it fails. -/
theorem sameFile_writeDocument {p : Place} (htemporary : p ≠ Path.place (Path.temporary path))
    (hp : p ≠ Path.place path ∨ (t.writeDocument path d).1 = false) :
    t.SameFile (t.writeDocument path d).2 p := by
  have hmade := sameFile_makeFolders t (Path.directory path) p
  have hwritten : ∀ {u : FileTree}, (t.makeFolders (Path.directory path)).2.writeFile?
      (Path.temporary path) (Document.pretty d).toUTF8 = some u → t.SameFile u p := by
    intro u hwrite
    refine hmade.trans (sameFile_of_eq ?_)
    rw [at?_writeFile? hwrite, if_neg htemporary]
  have hw := t.writes path d
  generalize t.writeDocument path d = w at hp hw ⊢
  cases hw with
  | stuck => exact hmade
  | unmoved hwrite => exact hwritten hwrite
  | moved hwrite hmove =>
    refine (hwritten hwrite).trans (sameFile_of_eq ?_)
    rw [at?_rename? hmove, if_neg (hp.resolve_right nofun), if_neg htemporary]

/-- A write leaves what a settled path beside the document leads to. -/
theorem find?_writeDocument_of_beside (ht : t.Closed) {other : String} (hbeside : Path.Beside other path)
    (hother : t.Settled other) : (t.writeDocument path d).2.find? other = t.find? other := by
  have hmade : (t.makeFolders (Path.directory path)).2.find? other = t.find? other :=
    hbeside.directory ▸ hother.find?_makeFolders_directory ht
  have hwritten : ∀ {u : FileTree}, (t.makeFolders (Path.directory path)).2.writeFile?
      (Path.temporary path) (Document.pretty d).toUTF8 = some u → u.find? other = t.find? other := by
    intro u hwrite
    rw [← hmade]
    refine find?_congr (foldersKept_writeFile? hwrite) (foldersKept_of_writeFile? hwrite) ?_
    rw [at?_writeFile? hwrite, if_neg hbeside.ne_temporary]
  have hw := t.writes path d
  generalize t.writeDocument path d = w at hw ⊢
  cases hw with
  | stuck => exact hmade
  | unmoved hwrite => exact hwritten hwrite
  | moved hwrite hmove =>
    rw [← hwritten hwrite]
    refine find?_congr (foldersKept_rename? hmove) (foldersKept_of_rename? hmove) ?_
    rw [at?_rename? hmove, if_neg hbeside.ne_document, if_neg hbeside.ne_temporary]

theorem foldersKept_writeDocument (t : FileTree) (path : String) (d : Document) :
    t.FoldersKept (t.writeDocument path d).2 := by
  have hmade := foldersKept_makeFolders t (Path.directory path)
  have hw := t.writes path d
  generalize t.writeDocument path d = w at hw ⊢
  cases hw with
  | stuck => exact hmade
  | unmoved hwrite => exact hmade.trans (foldersKept_writeFile? hwrite)
  | moved hwrite hmove =>
    exact (hmade.trans (foldersKept_writeFile? hwrite)).trans (foldersKept_rename? hmove)

theorem Closed.writeDocument (ht : t.Closed) (path : String) (d : Document) :
    (t.writeDocument path d).2.Closed := by
  have hmade := ht.makeFolders (Path.directory path)
  have hw := t.writes path d
  generalize t.writeDocument path d = w at hw ⊢
  cases hw with
  | stuck => exact hmade
  | unmoved hwrite hmove => exact hmade.writeFile? hwrite
  | moved hwrite hmove => exact (hmade.writeFile? hwrite).rename? hmove

/-- A write succeeds if the directory is made, the temporary file is written and it is moved. -/
theorem writeDocument_eq_true {v : FileTree} : t.writeDocument path d = (true, v) ↔
    (t.makeFolders (Path.directory path)).1 = true ∧
      ∃ u, (t.makeFolders (Path.directory path)).2.writeFile? (Path.temporary path)
          (Document.pretty d).toUTF8 = some u ∧
        u.rename? (Path.temporary path) path = some v := by
  unfold writeDocument
  generalize (Document.pretty d).toUTF8 = content
  rcases t.makeFolders (Path.directory path) with ⟨_ | _, t₁⟩
  · simp
  · cases hwrite : t₁.writeFile? (Path.temporary path) content with
    | none => simp [hwrite]
    | some u => cases hmove : u.rename? (Path.temporary path) path <;> simp [hwrite, hmove]

/-- A file is written and moved between two places where no directory stands. -/
theorem exists_rename? {source target : String} {p q : Place} (hp : t.reach? source = some p)
    (hfree : t.at? p ≠ some .folder) (hq : t.reach? target = some q)
    (hfree' : t.at? q ≠ some .folder) (content : ByteArray) :
    ∃ u v, t.writeFile? source content = some u ∧ u.rename? source target = some v := by
  have hkept := foldersKept_put hfree (.file content)
  refine ⟨_, _, writeFile?_eq_some.2 ⟨p, hp, hfree, rfl⟩,
    rename?_eq_some.2 ⟨p, q, content, reach?_mono hkept hp, reach?_mono hkept hq, ?_, ?_, rfl⟩⟩
  · rw [at?_put (isTop_eq_false hfree), if_pos rfl]
  · rw [at?_put (isTop_eq_false hfree)]
    split
    · nofun
    · exact hfree'

/-- Where a document has been written, any document can be written. -/
theorem writeDocument_again {v : FileTree} (h : t.writeDocument path d = (true, v))
    (d' : Document) : ∃ v', v.writeDocument path d' = (true, v') := by
  obtain ⟨hmake, u, hwrite, hmove⟩ := writeDocument_eq_true.1 h
  have hkept : u.FoldersKept v := foldersKept_rename? hmove
  have hmade := makeFolders_again hmake ((foldersKept_writeFile? hwrite).trans hkept)
  obtain ⟨p, q, content, hp, hq, hcontent, hfree, rfl⟩ := rename?_eq_some.1 hmove
  have hfile : u.at? p ≠ some .folder := by rw [hcontent]; nofun
  -- neither the place that was written nor the one that was left has become a directory
  have hp' : ((u.drop p).put q (.file content)).at? p ≠ some .folder := by
    rw [at?_put (isTop_eq_false hfree)]
    split
    · nofun
    · rw [at?_drop (isTop_eq_false hfile), if_pos rfl]
      nofun
  have hq' : ((u.drop p).put q (.file content)).at? q ≠ some .folder := by
    rw [at?_put (isTop_eq_false hfree), if_pos rfl]
    nofun
  obtain ⟨u', v', hwrite', hmove'⟩ :=
    exists_rename? (reach?_mono hkept hp) hp' (reach?_mono hkept hq) hq' (Document.pretty d').toUTF8
  refine ⟨v', writeDocument_eq_true.2 ?_⟩
  rw [hmade]
  exact ⟨rfl, u', hwrite', hmove'⟩

end FileTree

/-! ### Media -/

namespace Medium

variable {m m' : Medium} {d d' : Document}

/-- A document that the medium gives back as it was written. -/
def Fits (m : Medium) (d : Document) : Prop :=
  m.path?.isSome → (Node.mapping d).depth ≤ Node.maxDepth

/-- The path of the document, if there is one, is grounded. -/
def Grounded (m : Medium) : Prop := ∀ path ∈ m.path?, m.files.Grounded path

theorem fits_of_read (h : m.read = .ok d) : m.Fits d := by
  obtain ⟨backing, files⟩ := m
  cases backing with
  | memory => nofun
  | file path => exact fun _ => FileTree.depth_le_of_readDocument h

theorem read_write (hfits : m.Fits d) (h : m.write d = (true, m')) : m'.read = .ok d := by
  obtain ⟨backing, files⟩ := m
  cases backing with
  | memory committed =>
    obtain rfl : _ = m' := congrArg Prod.snd h
    rfl
  | file path =>
    rcases hw : files.writeDocument path d with ⟨done, files'⟩
    simp only [write, hw, Prod.mk.injEq] at h
    obtain ⟨rfl, rfl⟩ := h
    exact FileTree.readDocument_of_find? (hfits rfl) (FileTree.find?_writeDocument hw)

/-- What a medium is left with that a document was written to: the text of the document, if it is
kept in a file. -/
theorem find?_of_write {path : String} (hpath : m.path? = some path)
    (h : m.write d = (true, m')) :
    m'.files.find? path = some (.file (Document.pretty d).toUTF8) := by
  obtain ⟨backing, files⟩ := m
  cases backing with
  | memory committed => cases hpath
  | file path' =>
    obtain rfl := Option.some.inj hpath
    rcases hw : files.writeDocument path' d with ⟨done, files'⟩
    simp only [write, hw, Prod.mk.injEq] at h
    obtain ⟨rfl, rfl⟩ := h
    exact FileTree.find?_writeDocument hw

theorem read_write_failed (hclosed : m.files.Closed) (hg : m.Grounded) (hread : m.read = .ok d)
    (h : m.write d' = (false, m')) : m'.read = m.read := by
  obtain ⟨backing, files⟩ := m
  cases backing with
  | memory committed => cases h
  | file path =>
    rcases hw : files.writeDocument path d' with ⟨done, files'⟩
    simp only [write, hw, Prod.mk.injEq] at h
    obtain ⟨rfl, rfl⟩ := h
    exact FileTree.readDocument_congr (FileTree.find?_writeDocument_failed hclosed (hg path rfl)
      (FileTree.find?_ne_folder hread) hw)

/-- A write that fails leaves what stands at the path of the document, unless nothing stood there
and the path is not grounded. -/
theorem find?_write_failed (hclosed : m.files.Closed) {path : String} (hpath : m.path? = some path)
    (hthere : m.files.find? path ≠ none ∨ m.files.Grounded path) (hread : m.read = .ok d)
    (h : m.write d' = (false, m')) : m'.files.find? path = m.files.find? path := by
  obtain ⟨backing, files⟩ := m
  cases backing with
  | memory committed => cases hpath
  | file path' =>
    obtain rfl := Option.some.inj hpath
    rcases hw : files.writeDocument path' d' with ⟨done, files'⟩
    simp only [write, hw, Prod.mk.injEq] at h
    obtain ⟨rfl, rfl⟩ := h
    have hfolder := FileTree.find?_ne_folder hread
    have hgrounded : files.Grounded path' := by
      refine hthere.elim (fun hfound => ?_) id
      cases hfile : files.find? path' with
      | none => exact absurd hfile hfound
      | some e =>
        cases e with
        | file content => exact hclosed.grounded_of_find? hfile
        | folder => exact absurd hfile hfolder
    exact FileTree.find?_writeDocument_failed hclosed hgrounded hfolder hw

theorem read_of_path? {path : String} (h : m.path? = some path) :
    m.read = m.files.readDocument path := by
  obtain ⟨backing, files⟩ := m
  cases backing with
  | memory committed => cases h
  | file path' => rw [← Option.some.inj h]; rfl

@[simp] theorem path?_write (m : Medium) (d : Document) : (m.write d).2.path? = m.path? := by
  obtain ⟨backing, files⟩ := m
  cases backing <;> rfl

/-- Any document can be written to the medium. -/
def Writable (m : Medium) : Prop := ∀ d, (m.write d).1 = true

/-- A medium stays writable when a document is written to it. -/
theorem Writable.write (h : m.Writable) (d : Document) : (m.write d).2.Writable := by
  obtain ⟨backing, files⟩ := m
  cases backing with
  | memory committed => exact fun _ => rfl
  | file path =>
    intro d'
    obtain ⟨v, hv⟩ := FileTree.writeDocument_again (Prod.ext (h d) rfl) d'
    exact congrArg Prod.fst hv

/-- A write leaves a grounded path grounded. -/
theorem Grounded.write (hg : m.Grounded) (d : Document) : (m.write d).2.Grounded := by
  obtain ⟨backing, files⟩ := m
  cases backing with
  | memory committed => nofun
  | file path =>
    intro path' hpath
    exact (hg path' hpath).mono (FileTree.foldersKept_writeDocument files path d)

/-- A document that has been written stands at a grounded path. -/
theorem grounded_of_write (hclosed : m.files.Closed) (h : m.write d = (true, m')) :
    m'.Grounded := by
  obtain ⟨backing, files⟩ := m
  cases backing with
  | memory committed =>
    obtain rfl : _ = m' := congrArg Prod.snd h
    nofun
  | file path =>
    have hclosed' := FileTree.Closed.writeDocument hclosed path d
    rcases hw : files.writeDocument path d with ⟨done, files'⟩
    simp only [write, hw, Prod.mk.injEq] at h hclosed'
    obtain ⟨rfl, rfl⟩ := h
    intro path' hpath
    obtain rfl : path = path' := Option.some.inj hpath
    exact hclosed'.grounded_of_find? (FileTree.find?_writeDocument hw)

/-- A document in which something stands is read from a grounded path. -/
theorem grounded_of_get? (hclosed : m.files.Closed) (h : m.read = .ok d) {k : String} {n : Node}
    (hn : d.get? k = some n) : m.Grounded := by
  obtain ⟨backing, files⟩ := m
  cases backing with
  | memory committed => nofun
  | file path =>
    intro path' hpath
    obtain rfl : path = path' := Option.some.inj hpath
    have hread : files.readDocument path = .ok d := h
    cases hfile : files.find? path with
    | none =>
      -- without a file the document is empty
      rw [FileTree.readDocument, hfile] at hread
      obtain rfl : ∅ = d := Except.ok.inj hread
      cases hn
    | some e =>
      cases e with
      | file content => exact hclosed.grounded_of_find? hfile
      | folder => exact absurd hfile (FileTree.find?_ne_folder hread)

/-- A document that is in the medium: in memory, or as the text of the file at the place of its
path.  Whether the path leads there is left open. -/
def Holds (m : Medium) (d : Document) : Prop :=
  match m.backing with
  | .memory committed => d = committed
  | .file path => ∃ content s, m.files.at? (Path.place path) = some (.file content) ∧
      String.fromUTF8? content = some s ∧ Document.read? s = some d

theorem holds_of_read (h : m.read = .ok d) : d = ∅ ∨ m.Holds d := by
  obtain ⟨backing, files⟩ := m
  cases backing with
  | memory committed => exact .inr (Except.ok.inj h).symm
  | file path => exact FileTree.exists_of_readDocument h

/-- A write, whether it succeeds or not, brings no other document into the medium than the one that
is written. -/
theorem holds_write (h : (m.write d).2.Holds d') : m.Holds d' ∨ d' = d := by
  obtain ⟨backing, files⟩ := m
  cases backing with
  | memory committed => exact .inr h
  | file path =>
    obtain ⟨content, s, hfile, htext, hread⟩ := h
    rcases FileTree.file_of_writeDocument hfile with hfile | rfl
    · exact .inl ⟨content, s, hfile, htext, hread⟩
    · obtain rfl := Option.some.inj ((FileTree.text?_file_toUTF8 _).symm.trans htext)
      exact .inr (Document.eq_of_read?_pretty hread)

/-- A write leaves every file but the temporary one, and the document if it fails. -/
theorem sameFile_write {path : String} (hpath : m.path? = some path) {p : Place}
    (htemporary : p ≠ Path.place (Path.temporary path))
    (hp : p ≠ Path.place path ∨ (m.write d).1 = false) :
    m.files.SameFile (m.write d).2.files p := by
  obtain ⟨backing, files⟩ := m
  cases backing with
  | memory committed => cases hpath
  | file path' =>
    obtain rfl := Option.some.inj hpath
    exact FileTree.sameFile_writeDocument htemporary hp

theorem foldersKept_write (m : Medium) (d : Document) :
    m.files.FoldersKept (m.write d).2.files := by
  obtain ⟨backing, files⟩ := m
  cases backing with
  | memory committed => exact fun _ h => h
  | file path => exact FileTree.foldersKept_writeDocument files path d

/-- A write leaves what a settled path beside the document leads to. -/
theorem find?_write_of_beside (hclosed : m.files.Closed) {path other : String}
    (hpath : m.path? = some path) (hbeside : Path.Beside other path)
    (hother : m.files.Settled other) :
    (m.write d).2.files.find? other = m.files.find? other := by
  obtain ⟨backing, files⟩ := m
  cases backing with
  | memory committed => cases hpath
  | file path' =>
    obtain rfl := Option.some.inj hpath
    exact FileTree.find?_writeDocument_of_beside hclosed hbeside hother

theorem closed_write (h : m.files.Closed) (d : Document) : (m.write d).2.files.Closed := by
  obtain ⟨backing, files⟩ := m
  cases backing with
  | memory committed => exact h
  | file path => exact FileTree.Closed.writeDocument h path d

end Medium

end InitiatorStore
