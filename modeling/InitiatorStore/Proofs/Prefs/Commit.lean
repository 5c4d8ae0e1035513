import InitiatorStore.Prefs.Basic
import InitiatorStore.Proofs.Prefs.Medium

/-!
# Commits

A commit ends in one of five ways (`Prefs.commits`), and everything else about commits follows from
that list.  One that succeeds has applied the stage to the document as it was read and has emptied
the stage (`Prefs.Commits.read_of_ok`, `Prefs.Commits.staged_of_ok`); one that fails leaves what is
read as it was (`Prefs.Commits.read_of_error`).
-/

namespace InitiatorStore

/-! ### Staged writes -/

/-- A staged key holds what was staged for it, and every other key what it held. -/
@[simp] theorem get?_applyStaged (staged : Keyed (Option Node)) (d : Document) (k : String) :
    (applyStaged staged d).get? k = (staged.get? k).getD (d.get? k) := by
  have overlay : ∀ {lo : Option String} (staged : Entries (Option Node) lo) (d : Document)
      (write : Document → String × Option Node → Document),
      (∀ d e, (write d e).get? k = if k = e.1 then e.2 else d.get? k) →
      (staged.toList.foldl write d).get? k = (staged.get? k).getD (d.get? k) := by
    intro lo staged d write hwrite
    induction staged generalizing d with
    | nil => rfl
    | cons k₁ h₁ v₁ rest ih =>
      -- the rest is applied later, but has no second entry for the first key
      rw [Entries.toList, List.foldl_cons, ih, Entries.get?, hwrite]
      by_cases hk : k = k₁
      · subst hk
        simp [Entries.get?_self]
      · simp [hk]
  refine overlay staged d _ fun d e => ?_
  obtain ⟨k₁, _ | n⟩ := e
  · exact Entries.get?_erase ..
  · exact Entries.get?_insert ..

/-- What is staged and what is committed both fit, so the document after the commit does. -/
theorem Medium.fits_applyStaged {m : Medium} {d : Document} {staged : Keyed (Option Node)}
    (hd : m.Fits d)
    (hstaged : ∀ k n, staged.get? k = some (some n) → m.path?.isSome → n.depth < Node.maxDepth) :
    m.Fits (applyStaged staged d) := by
  intro hfile
  refine Node.depth_mapping_le.2 fun k n hn => ?_
  rw [get?_applyStaged] at hn
  cases hk : staged.get? k with
  | none =>
    rw [hk] at hn
    exact Node.depth_mapping_le.1 (hd hfile) k n hn
  | some v =>
    rw [hk] at hn
    exact Nat.le_of_lt_succ (hstaged k n (hk.trans (congrArg some hn)) hfile)

namespace Prefs

/-! ### Copies -/

section Copy

variable {p : Prefs} {m : Medium} {k : String}

/-- A copy depends on nothing but what is staged, what is refused and what is committed. -/
theorem copy_congr {p' : Prefs} (hstaged : p'.staged = p.staged)
    (hrefusals : p'.refusals = p.refusals) (m : Medium) (k : String) :
    p'.copy m k = p.copy m k := by
  rw [copy, copy, hstaged, hrefusals]

/-- Of the medium it depends on what is read only. -/
theorem copy_eq_of_read_eq {m' : Medium} (h : m'.read = m.read) (p : Prefs) (k : String) :
    p.copy m' k = p.copy m k := by
  rw [copy, copy, h]

/-- With nothing staged, a copy that is not refused is what is committed. -/
theorem copy_of_staged_eq_empty (h : p.staged = ∅) (hk : p.refusals.copy.contains k = false) :
    p.copy m k = m.read.map (·.get? k) := by
  rw [copy, h, hk]
  rfl

theorem copy_of_refused (hk : p.refusals.copy.contains k = true) :
    p.copy m k = .error (.backend "read refused") := by
  rw [copy, hk]
  rfl

/-- With nothing staged, whatever is copied is committed. -/
theorem copy_eq_ok (h : p.staged = ∅) {v : Option Node} (hv : p.copy m k = .ok v) :
    ∃ d, m.read = .ok d ∧ v = d.get? k := by
  cases hk : p.refusals.copy.contains k with
  | true =>
    rw [copy_of_refused hk] at hv
    cases hv
  | false =>
    rw [copy_of_staged_eq_empty h hk] at hv
    cases hread : m.read with
    | error e =>
      rw [hread] at hv
      cases hv
    | ok d =>
      rw [hread] at hv
      exact ⟨d, rfl, (Except.ok.inj hv).symm⟩

/-- What is not staged cannot be copied from a document that cannot be read. -/
theorem exists_copy_eq_error {e : PrefsError} (hread : m.read = .error e)
    (hk : p.staged.get? k = none) :
    ∃ e', p.copy m k = .error e' ∧ (p.refusals = {} → e' = e) := by
  cases hrefused : p.refusals.copy.contains k with
  | true =>
    refine ⟨_, copy_of_refused hrefused, fun hnone => ?_⟩
    rw [hnone] at hrefused
    cases hrefused
  | false =>
    refine ⟨e, ?_, fun _ => rfl⟩
    rw [copy, hrefused, hk, hread]
    rfl

end Copy

/-! ### How a commit ends -/

/-- What a commit comes to: it is refused, has nothing to do, cannot read, cannot write, or
writes. -/
inductive Commits (p : Prefs) (m : Medium) : Commit → Prop
  | refused : p.refusals.commit = true →
      Commits p m ⟨.error (.backend "disk full"), p.record .commit, m, []⟩
  | idle : p.refusals.commit = false → p.staged = ∅ →
      Commits p m ⟨.ok (), p.record .commit, m, []⟩
  | unread {e : PrefsError} : p.refusals.commit = false → m.read = .error e →
      Commits p m ⟨.error e, p.record .commit, m, []⟩
  | unwritten {d : Document} {m' : Medium} : p.refusals.commit = false → m.read = .ok d →
      m.write (applyStaged p.staged d) = (false, m') →
      Commits p m ⟨.error .io, { p.record .commit with staged := ∅ }, m', []⟩
  | written {d : Document} {m' : Medium} {notices : List Notice} : p.refusals.commit = false →
      m.read = .ok d → m.write (applyStaged p.staged d) = (true, m') →
      Commits p m ⟨.ok (), { p.record .commit with staged := ∅ }, m', notices⟩

theorem commits (p : Prefs) (m : Medium) : Commits p m (p.commit m) := by
  rw [commit]
  split
  · next hrefused => exact .refused hrefused
  · next hrefused =>
    replace hrefused : p.refusals.commit = false := Bool.eq_false_iff.2 hrefused
    split
    · next hempty => exact .idle hrefused (Entries.eq_empty_of_isEmpty hempty)
    · split
      · next hread => exact .unread hrefused hread
      · next d hread =>
        split
        · next hwrite => exact .unwritten hrefused hread hwrite
        · next hwrite => exact .written hrefused hread hwrite

/-- With nothing staged a commit does not touch the medium. -/
theorem medium_commit_of_staged_eq_empty {p : Prefs} (h : p.staged = ∅) (m : Medium) :
    (p.commit m).medium = m := by
  have hempty : (p.record .commit).staged.isEmpty = true := congrArg Entries.isEmpty h
  rw [commit, hempty]
  split <;> rfl

namespace Commits

variable {p : Prefs} {m : Medium} {c : Commit} {d : Document} {e : PrefsError}

theorem calls (h : Commits p m c) : c.prefs.calls = .commit :: p.calls := by
  cases h <;> rfl

theorem refusals (h : Commits p m c) : c.prefs.refusals = p.refusals := by
  cases h <;> rfl

theorem path? (h : Commits p m c) : c.medium.path? = m.path? := by
  cases h with
  | refused | idle | unread => rfl
  | unwritten _ _ hwrite | written _ _ hwrite =>
    have hpath := Medium.path?_write m (applyStaged p.staged ‹_›)
    rw [hwrite] at hpath
    exact hpath

theorem closed (h : Commits p m c) (hm : m.files.Closed) : c.medium.files.Closed := by
  cases h with
  | refused | idle | unread => exact hm
  | unwritten _ _ hwrite | written _ _ hwrite =>
    have hclosed := Medium.closed_write hm (applyStaged p.staged ‹_›)
    rw [hwrite] at hclosed
    exact hclosed

theorem grounded (h : Commits p m c) (hg : m.Grounded) : c.medium.Grounded := by
  cases h with
  | refused | idle | unread => exact hg
  | unwritten _ _ hwrite | written _ _ hwrite =>
    have hgrounded := hg.write (applyStaged p.staged ‹_›)
    rw [hwrite] at hgrounded
    exact hgrounded

/-- A commit keeps the stage or empties it. -/
theorem staged (h : Commits p m c) : c.prefs.staged = p.staged ∨ c.prefs.staged = ∅ := by
  cases h with
  | refused | idle | unread => exact .inl rfl
  | unwritten | written => exact .inr rfl

/-- A commit that succeeds leaves nothing staged. -/
theorem staged_of_ok (h : Commits p m c) (hok : c.result = .ok ()) : c.prefs.staged = ∅ := by
  cases h with
  | refused | unread | unwritten => cases hok
  | idle _ hempty => exact hempty
  | written => rfl

/-- A commit that succeeds has applied the stage to the committed document. -/
theorem read_of_ok (h : Commits p m c) (hread : m.read = .ok d)
    (hfits : m.Fits (applyStaged p.staged d)) (hok : c.result = .ok ()) :
    c.medium.read = .ok (applyStaged p.staged d) := by
  cases h with
  | refused | unread | unwritten => cases hok
  | idle _ hempty => rw [hempty, hread]; rfl
  | written _ hread' hwrite =>
    obtain rfl := Except.ok.inj (hread'.symm.trans hread)
    exact Medium.read_write hfits hwrite

/-- With something staged, a commit that succeeds has read the committed document. -/
theorem exists_read (h : Commits p m c) {k : String} {v : Option Node}
    (hk : p.staged.get? k = some v) (hok : c.result = .ok ()) : ∃ d, m.read = .ok d := by
  cases h with
  | refused | unread | unwritten => cases hok
  | idle _ hempty =>
    rw [hempty, Entries.get?_empty] at hk
    cases hk
  | written _ hread => exact ⟨_, hread⟩

/-- With something staged, a commit that succeeds leaves the document at a grounded path. -/
theorem grounded_of_ok (h : Commits p m c) (hclosed : m.files.Closed) {k : String}
    {v : Option Node} (hk : p.staged.get? k = some v) (hok : c.result = .ok ()) :
    c.medium.Grounded := by
  cases h with
  | refused | unread | unwritten => cases hok
  | idle _ hempty =>
    rw [hempty, Entries.get?_empty] at hk
    cases hk
  | written _ _ hwrite => exact Medium.grounded_of_write hclosed hwrite

/-- A commit that succeeds with something staged leaves the document, with the stage applied to
it. -/
theorem find?_of_ok (h : Commits p m c) (hstaged : p.staged ≠ ∅)
    {path : String} (hpath : m.path? = some path) (hok : c.result = .ok ()) :
    ∃ d, m.read = .ok d ∧ c.medium.files.find? path =
      some (.file (Document.pretty (applyStaged p.staged d)).toUTF8) := by
  cases h with
  | refused | unread | unwritten => cases hok
  | idle _ hempty => exact absurd hempty hstaged
  | written _ hread hwrite => exact ⟨_, hread, Medium.find?_of_write hpath hwrite⟩

/-- A commit that fails leaves what is read as it was. -/
theorem read_of_error (h : Commits p m c) (hclosed : m.files.Closed) (hg : m.Grounded)
    (herr : c.result = .error e) : c.medium.read = m.read := by
  cases h with
  | refused | unread => rfl
  | idle | written => cases herr
  | unwritten _ hread hwrite => exact Medium.read_write_failed hclosed hg hread hwrite

/-- A commit that fails leaves what stands at the path of the document, unless nothing stood there
and the path is not grounded. -/
theorem find?_of_error (h : Commits p m c) (hclosed : m.files.Closed) {path : String}
    (hpath : m.path? = some path)
    (hthere : m.files.find? path ≠ none ∨ m.files.Grounded path) (herr : c.result = .error e) :
    c.medium.files.find? path = m.files.find? path := by
  cases h with
  | refused | unread => rfl
  | idle | written => cases herr
  | unwritten _ hread hwrite => exact Medium.find?_write_failed hclosed hpath hthere hread hwrite

/-- A commit leaves every file but the temporary one, and the document if it fails. -/
theorem sameFile (h : Commits p m c) {path : String} (hpath : m.path? = some path) {q : Place}
    (htemporary : q ≠ Path.place (Path.temporary path))
    (hq : q ≠ Path.place path ∨ ∃ e, c.result = .error e) : m.files.SameFile c.medium.files q := by
  cases h with
  | refused | idle | unread => exact .refl _ _
  | unwritten _ _ hwrite =>
    have hsame := Medium.sameFile_write hpath htemporary (.inr (congrArg Prod.fst hwrite))
    rwa [hwrite] at hsame
  | written _ _ hwrite =>
    have hne := hq.resolve_right nofun
    have hsame := Medium.sameFile_write (d := applyStaged p.staged ‹_›) hpath htemporary (.inl hne)
    rwa [hwrite] at hsame

theorem foldersKept (h : Commits p m c) : m.files.FoldersKept c.medium.files := by
  cases h with
  | refused | idle | unread => exact fun _ h => h
  | unwritten _ _ hwrite | written _ _ hwrite =>
    have hkept := m.foldersKept_write (applyStaged p.staged ‹_›)
    rw [hwrite] at hkept
    exact hkept

/-- A commit leaves what a settled path beside the document leads to. -/
theorem find?_of_beside (h : Commits p m c) (hclosed : m.files.Closed) {path other : String}
    (hpath : m.path? = some path) (hbeside : Path.Beside other path)
    (hother : m.files.Settled other) : c.medium.files.find? other = m.files.find? other := by
  cases h with
  | refused | idle | unread => rfl
  | unwritten _ _ hwrite | written _ _ hwrite =>
    have hfound := Medium.find?_write_of_beside (d := applyStaged p.staged ‹_›) hclosed hpath
      hbeside hother
    rwa [hwrite] at hfound

/-- A commit to a document that cannot be read leaves it and the stage alone, and fails if there is
something staged. -/
theorem of_read_eq_error (h : Commits p m c) (hread : m.read = .error e) :
    c.medium = m ∧ c.prefs.staged = p.staged ∧
      (p.staged ≠ ∅ → ∃ e', c.result = .error e' ∧ (p.refusals = {} → e' = e)) := by
  cases h with
  | refused hrefused =>
    refine ⟨rfl, rfl, fun _ => ⟨_, rfl, fun hnone => ?_⟩⟩
    rw [hnone] at hrefused
    cases hrefused
  | idle _ hempty => exact ⟨rfl, rfl, fun hne => absurd hempty hne⟩
  | unread _ hread' =>
    obtain rfl := Except.error.inj (hread'.symm.trans hread)
    exact ⟨rfl, rfl, fun _ => ⟨_, rfl, fun _ => rfl⟩⟩
  | unwritten _ hread' | written _ hread' => cases hread'.symm.trans hread

/-- The documents in the medium after a commit are those that were there, and the one that was
read with the stage applied to it. -/
theorem holds (h : Commits p m c) {d' : Document} (hd : c.medium.Holds d') :
    m.Holds d' ∨ ∃ d, m.read = .ok d ∧ d' = applyStaged p.staged d := by
  cases h with
  | refused | idle | unread => exact .inl hd
  | unwritten _ hread hwrite | written _ hread hwrite =>
    have hholds := @Medium.holds_write m (applyStaged p.staged ‹_›) d'
    rw [hwrite] at hholds
    exact (hholds hd).imp_right fun heq => ⟨_, hread, heq⟩

theorem writable (h : Commits p m c) (hm : m.Writable) : c.medium.Writable := by
  cases h with
  | refused | idle | unread => exact hm
  | unwritten _ _ hwrite | written _ _ hwrite =>
    have hwritable := hm.write (applyStaged p.staged ‹_›)
    rw [hwrite] at hwritable
    exact hwritable

/-- A commit to a medium that can be read and written succeeds, if it is not refused. -/
theorem ok_of_writable (h : Commits p m c) (hallowed : p.refusals.commit = false)
    (hread : m.read = .ok d) (hm : m.Writable) : c.result = .ok () := by
  cases h with
  | refused hrefused => cases hrefused.symm.trans hallowed
  | idle | written => rfl
  | unread _ hread' => cases hread'.symm.trans hread
  | unwritten _ _ hwrite => cases (congrArg Prod.fst hwrite).symm.trans (hm _)

/-- A commit that is not refused and can read fails only by a fault of the files. -/
theorem ok_or_io (h : Commits p m c) (hallowed : p.refusals.commit = false)
    (hread : m.read = .ok d) : c.result = .ok () ∨ c.result = .error .io := by
  cases h with
  | refused hrefused => cases hrefused.symm.trans hallowed
  | idle | written => exact .inl rfl
  | unread _ hread' => cases hread'.symm.trans hread
  | unwritten => exact .inr rfl

end Commits

end Prefs

end InitiatorStore
