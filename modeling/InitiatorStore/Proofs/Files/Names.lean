import InitiatorStore.Proofs.Files.Path
import InitiatorStore.Proofs.Files.Tree

/-!
# The last name of a path

A path that ends in a step is the name of the step behind a front, which is empty or ends in a slash
(`Path.EndsIn`).  Its place is one step from that of the front (`Path.EndsIn.place_eq`), and its
directory depends on the front only (`Path.EndsIn.directory_eq`).  So names behind one front are
names in one directory, and different ones are different places (`Path.EndsIn.place_ne`).

An extension that is put in place of another makes another name behind the same front
(`Path.EndsIn.withExtension`).  If it has a dot of its own, that is never the name it was put on
(`Path.extended_ne`).
-/

namespace InitiatorStore

namespace Place

variable {p : Place} {name name' : String}

theorem child_inj : p.child name = p.child name' ↔ name = name' := by
  simp [child]

/-- No name in a directory is the directory above. -/
theorem parent_ne_child (h : name ≠ "..") : p.parent ≠ p.child name := by
  intro heq
  have hnames : p.parent.names = p.names ++ [name] := congrArg names heq
  rw [parent] at hnames
  split at hnames
  · have hlength := congrArg List.length hnames
    simp at hlength
  · split at hnames
    · have hlast := List.append_cancel_left hnames
      exact h (List.cons.inj hlast).1.symm
    · have hlength := congrArg List.length hnames
      simp at hlength

end Place

namespace Path

variable {p q dir : String} {front name name' base extension : List Char}

/-! ### Fronts and names -/

/-- A name that is a step of a path. -/
structure IsStep (name : List Char) : Prop where
  not_idle : isIdle name = false
  slash_notMem : '/' ∉ name

/-- A path that ends in a step. -/
structure EndsIn (p : String) (front name : List Char) : Prop where
  toList : p.toList = front ++ name
  front : front = [] ∨ ∃ dir, front = dir ++ ['/']
  step : IsStep name

/-- A path that ends in the name of a file: in a step that does not lead upwards. -/
def EndsInFile (p : String) : Prop := ∃ front name, EndsIn p front name ∧ name ≠ ['.', '.']

theorem splitSlash_concat (cs : List Char) : splitSlash (cs ++ ['/']) = splitSlash cs ++ [[]] :=
  splitSlash_append cs []

namespace EndsIn

theorem splitSlash_eq (h : EndsIn p front name) :
    splitSlash p.toList = (splitSlash front).dropLast ++ [name] := by
  rw [h.toList]
  rcases h.front with rfl | ⟨dir, rfl⟩
  · rw [List.nil_append, splitSlash_of_notMem h.step.slash_notMem]
    rfl
  · rw [List.append_assoc, List.singleton_append, splitSlash_append,
      splitSlash_of_notMem h.step.slash_notMem, splitSlash_concat, List.dropLast_concat]

/-- The front ends in no step. -/
theorem filter_dropLast (h : EndsIn p front name) :
    (splitSlash front).dropLast.filter (!isIdle ·) = (splitSlash front).filter (!isIdle ·) := by
  rcases h.front with rfl | ⟨dir, rfl⟩
  · rfl
  · simp [splitSlash_concat, isIdle]

theorem steps_eq (h : EndsIn p front name) :
    steps p = steps (String.ofList front) ++ [String.ofList name] := by
  rw [steps, h.splitSlash_eq, List.filter_append, h.filter_dropLast, steps_ofList]
  simp [h.step.not_idle]

theorem isRooted_eq (h : EndsIn p front name) : isRooted p = isRooted (String.ofList front) := by
  rw [isRooted, isRooted_ofList, h.toList]
  rcases h.front with rfl | ⟨dir, rfl⟩
  · cases name with
    | nil => rfl
    | cons c cs =>
      have hc : c ≠ '/' := fun hc => h.step.slash_notMem (hc ▸ List.mem_cons_self ..)
      simp [hc]
  · cases dir <;> rfl

theorem place_eq (h : EndsIn p front name) :
    place p = (place (String.ofList front)).step (String.ofList name) := by
  rw [place, place, h.steps_eq, h.isRooted_eq, List.foldl_concat]

theorem place_eq_child (h : EndsIn p front name) (hname : name ≠ ['.', '.']) :
    place p = (place (String.ofList front)).child (String.ofList name) := by
  rw [h.place_eq, Place.step_of_ne fun heq => hname (String.ofList_injective heq)]

/-- Different names behind one front are different places. -/
theorem place_ne (h : EndsIn p front name) (h' : EndsIn q front name') (hname : name ≠ ['.', '.'])
    (hne : name ≠ name') : place p ≠ place q := by
  rw [h.place_eq_child hname]
  by_cases hname' : name' = ['.', '.']
  · subst hname'
    rw [h'.place_eq]
    exact Ne.symm (Place.parent_ne_child fun heq => hname (String.ofList_injective heq))
  · rw [h'.place_eq_child hname']
    exact fun heq => hne (String.ofList_injective (Place.child_inj.1 heq))

/-- Names behind one front have one directory. -/
theorem directory_eq (h : EndsIn p front name) (h' : EndsIn q front name') :
    directory p = directory q := by
  have hnames : ∀ {p : String} {name : List Char}, EndsIn p front name →
      directoryNames p = upToStep (splitSlash front).dropLast := by
    intro p name h
    have hstep : upToStep (splitSlash p.toList) = splitSlash p.toList := by
      rw [h.splitSlash_eq, upToStep, List.reverse_concat,
        List.dropWhile_cons_of_neg (by simp [h.step.not_idle]), List.reverse_cons,
        List.reverse_reverse]
    rw [directoryNames, hstep, h.splitSlash_eq, List.dropLast_concat]
  rw [Path.directory_eq, Path.directory_eq, hnames h, hnames h', h.isRooted_eq, h'.isRooted_eq]

theorem splitName_eq (h : EndsIn p front name) : splitName p = (front, name) := by
  have hname : ∀ c ∈ name.reverse, decide (c ≠ '/') = true := by
    intro c hc
    refine decide_eq_true fun hslash => h.step.slash_notMem ?_
    exact hslash ▸ List.mem_reverse.1 hc
  rw [splitName, h.toList, List.reverse_append]
  rw [List.takeWhile_append_of_pos hname, List.dropWhile_append_of_pos hname]
  rcases h.front with rfl | ⟨dir, rfl⟩ <;> simp

end EndsIn

/-! ### Names in a directory -/

/-- What stands before the names of the files in a directory. -/
def lead (dir : String) : List Char :=
  if dir = "" then [] else if dir.toList.getLast? = some '/' then dir.toList
  else dir.toList ++ ['/']

theorem endsIn_join {name : String} (h : IsStep name.toList) (dir : String) :
    EndsIn (join dir name) (lead dir) name.toList := by
  have hrooted : isRooted name = false := by
    rw [isRooted]
    cases hlist : name.toList with
    | nil => rfl
    | cons c cs =>
      have hc : c ≠ '/' := fun hc => h.slash_notMem (hlist ▸ hc ▸ List.mem_cons_self ..)
      simp [hc]
  rw [join, lead, hrooted, Bool.false_or]
  by_cases hempty : dir = ""
  · exact ⟨by simp [hempty], by simp [hempty], h⟩
  · rw [if_neg hempty, if_neg (by simpa using hempty)]
    by_cases hslash : dir.toList.getLast? = some '/'
    · rw [if_pos hslash, if_pos hslash]
      exact ⟨String.toList_append, .inr (List.getLast?_eq_some_iff.1 hslash), h⟩
    · rw [if_neg hslash, if_neg hslash]
      exact ⟨by simp [String.toList_append], .inr ⟨_, rfl⟩, h⟩

theorem place_lead (dir : String) : place (String.ofList (lead dir)) = place dir := by
  rw [lead]
  split
  · next hempty => rw [hempty]
  · next hempty =>
    split
    · rw [String.ofList_toList]
    · have hsteps : steps (String.ofList (dir.toList ++ ['/'])) = steps dir := by
        rw [steps_ofList, splitSlash_concat, steps]
        simp [isIdle]
      have hrooted : isRooted (String.ofList (dir.toList ++ ['/'])) = isRooted dir := by
        rw [isRooted_ofList, isRooted]
        cases hlist : dir.toList with
        | nil => exact absurd (String.toList_eq_nil_iff.1 hlist) hempty
        | cons => rfl
      rw [place, place, hsteps, hrooted]

/-! ### Extensions -/

/-- A name is cut before its last dot, unless nothing stands before that. -/
theorem stem_append (hbase : base ≠ []) (hext : '.' ∉ extension) :
    stem (base ++ '.' :: extension) = base := by
  have hdrop : (base ++ '.' :: extension).reverse.dropWhile (· ≠ '.') = '.' :: base.reverse := by
    have hpos : ∀ c ∈ extension.reverse, decide (c ≠ '.') = true := by
      intro c hc
      refine decide_eq_true fun hdot => hext ?_
      exact hdot ▸ List.mem_reverse.1 hc
    rw [List.reverse_append, List.reverse_cons, List.append_assoc, List.singleton_append,
      List.dropWhile_append_of_pos hpos, List.dropWhile_cons_of_neg (by simp)]
  rw [stem, hdrop]
  split
  · next h => cases h
  · next h => exact absurd (List.reverse_eq_nil_iff.1 (List.cons.inj h).2) hbase
  · next h => rw [← (List.cons.inj h).2, List.reverse_reverse]

theorem stem_subset (name : List Char) : stem name ⊆ name := by
  rw [stem]
  split
  · exact List.Subset.refl _
  · exact List.Subset.refl _
  · next h =>
    intro c hc
    have hmem : c ∈ name.reverse.dropWhile (· ≠ '.') :=
      h ▸ List.mem_cons_of_mem _ (List.mem_reverse.1 hc)
    exact List.mem_reverse.1 ((List.dropWhile_sublist _).subset hmem)

/-- An extension with a dot of its own makes another name of every name. -/
theorem stem_append_ne (name first second : List Char) (hsecond : '.' ∉ second) :
    stem name ++ '.' :: (first ++ '.' :: second) ≠ name := by
  intro heq
  have hstem : stem (stem name ++ '.' :: (first ++ '.' :: second)) =
      stem name ++ '.' :: first := by
    have hassoc : stem name ++ '.' :: (first ++ '.' :: second) =
        (stem name ++ '.' :: first) ++ '.' :: second := by simp
    rw [hassoc, stem_append (by simp) hsecond]
  rw [heq] at hstem
  have hlength := congrArg List.length hstem
  simp at hlength

/-- A name with another extension.  It is cut after its last dot first, and what that leaves of a
name that begins with two dots and has no others is the name of the directory above. -/
def extended (name extension : List Char) : List Char :=
  if stem name = ['.'] then ['.', '.'] else stem name ++ '.' :: extension

/-- An extension with a dot of its own makes another name of every name of a file. -/
theorem extended_ne (hname : name ≠ ['.', '.']) (first second : List Char)
    (hsecond : '.' ∉ second) : extended name (first ++ '.' :: second) ≠ name := by
  rw [extended]
  split
  · exact Ne.symm hname
  · exact stem_append_ne name first second hsecond

theorem IsStep.extended (h : IsStep name) (hne : extension ≠ []) (hslash : '/' ∉ extension) :
    IsStep (extended name extension) := by
  rw [Path.extended]
  split
  · exact ⟨by decide, by decide⟩
  · have hlength := List.length_pos_of_ne_nil hne
    refine ⟨?_, ?_⟩
    · simp only [isIdle, Bool.or_eq_false_iff, decide_eq_false_iff_not]
      refine ⟨by simp, fun heq => ?_⟩
      have hlen := congrArg List.length heq
      simp at hlen
      omega
    · rw [List.mem_append, List.mem_cons, not_or, not_or]
      exact ⟨fun hmem => h.slash_notMem (stem_subset name hmem), by decide, hslash⟩

/-- A path with another extension ends in the name with that extension behind the same front. -/
theorem EndsIn.withExtension (h : EndsIn p front name) {extension : String}
    (hne : extension.toList ≠ []) (hslash : '/' ∉ extension.toList) :
    EndsIn (withExtension p extension) front (extended name extension.toList) := by
  refine ⟨?_, h.front, h.step.extended hne hslash⟩
  rw [Path.withExtension, h.splitName_eq, extended]
  by_cases hstem : stem name = ['.'] <;> simp [hstem]

end Path

end InitiatorStore
