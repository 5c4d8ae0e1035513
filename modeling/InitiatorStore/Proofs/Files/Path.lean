import InitiatorStore.Files.Path
import Mathlib.Data.List.DropRight

/-!
# The directory of a path

The directory of a path is written as a path again, and its steps are those of the path without the
last one (`Path.steps_directory`), from the same start (`Path.isRooted_directory`).
-/

namespace InitiatorStore.Path

/-! ### Texts between slashes -/

theorem splitSlash_ne_nil (cs : List Char) : splitSlash cs ≠ [] := by
  fun_cases splitSlash cs <;> simp

theorem splitSlash_cons {c : Char} (hc : c ≠ '/') (cs : List Char) :
    ∃ name rest, splitSlash cs = name :: rest ∧ splitSlash (c :: cs) = (c :: name) :: rest := by
  obtain ⟨name, rest, h⟩ := List.exists_cons_of_ne_nil (splitSlash_ne_nil cs)
  exact ⟨name, rest, h, by simp [splitSlash, h]⟩

theorem slash_notMem_of_mem_splitSlash {cs name : List Char} (h : name ∈ splitSlash cs) :
    '/' ∉ name := by
  induction cs generalizing name with
  | nil =>
    rw [splitSlash, List.mem_singleton] at h
    simp [h]
  | cons c cs ih =>
    by_cases hc : c = '/'
    · subst hc
      rw [splitSlash] at h
      rcases List.mem_cons.1 h with rfl | h
      · simp
      · exact ih h
    · obtain ⟨first, rest, hcs, hsplit⟩ := splitSlash_cons hc cs
      rw [hsplit] at h
      rcases List.mem_cons.1 h with rfl | h
      · have hfirst : '/' ∉ first := ih (by simp [hcs])
        simp [Ne.symm hc, hfirst]
      · exact ih (by simp [hcs, h])

/-- What stands before a slash and what stands behind it are split apart from one another. -/
theorem splitSlash_append (cs ds : List Char) :
    splitSlash (cs ++ '/' :: ds) = splitSlash cs ++ splitSlash ds := by
  induction cs with
  | nil => rfl
  | cons c cs ih =>
    by_cases hc : c = '/'
    · subst hc
      rw [List.cons_append, splitSlash, splitSlash, ih, List.cons_append]
    · obtain ⟨first, rest, hcs, hsplit⟩ := splitSlash_cons hc cs
      obtain ⟨first', rest', hall, hsplit'⟩ := splitSlash_cons hc (cs ++ '/' :: ds)
      rw [ih, hcs, List.cons_append] at hall
      obtain ⟨rfl, rfl⟩ := List.cons.inj hall
      rw [List.cons_append, hsplit', hsplit, List.cons_append]

theorem splitSlash_of_notMem {name : List Char} (h : '/' ∉ name) : splitSlash name = [name] := by
  induction name with
  | nil => rfl
  | cons c name ih =>
    rw [List.mem_cons, not_or] at h
    obtain ⟨hc, hname⟩ := h
    rw [splitSlash]
    · rw [ih hname]
    · exact fun hslash => hc hslash.symm

/-- Names that are joined by slashes are found between the slashes. -/
theorem splitSlash_intercalate {names : List (List Char)} (hne : names ≠ [])
    (h : ∀ name ∈ names, '/' ∉ name) : splitSlash (['/'].intercalate names) = names := by
  induction names with
  | nil => exact absurd rfl hne
  | cons name rest ih =>
    have hname : '/' ∉ name := h name (List.mem_cons_self ..)
    cases rest with
    | nil => simpa [List.intercalate] using splitSlash_of_notMem hname
    | cons name' rest =>
      have hrest := ih (List.cons_ne_nil _ _) fun n hn => h n (List.mem_cons_of_mem _ hn)
      have hjoin : ['/'].intercalate (name :: name' :: rest) =
          name ++ '/' :: ['/'].intercalate (name' :: rest) := by
        simp [List.intercalate, List.intersperse]
      rw [hjoin, splitSlash_append, splitSlash_of_notMem hname, hrest, List.singleton_append]

/-! ### The last step -/

theorem upToStep_isPrefix (names : List (List Char)) : upToStep names <+: names :=
  List.rdropWhile_prefix isIdle names

theorem filter_upToStep (names : List (List Char)) :
    (upToStep names).filter (!isIdle ·) = names.filter (!isIdle ·) := by
  have hsplit := List.rdropWhile_append_rtakeWhile (p := isIdle) (l := names)
  have hidle : (names.rtakeWhile isIdle).filter (!isIdle ·) = [] := by
    rw [List.filter_eq_nil_iff]
    intro name hname
    simp [List.mem_rtakeWhile_imp hname]
  calc (upToStep names).filter (!isIdle ·)
      = (names.rdropWhile isIdle ++ names.rtakeWhile isIdle).filter (!isIdle ·) := by
        rw [List.filter_append, hidle, List.append_nil]
        rfl
    _ = names.filter (!isIdle ·) := by rw [hsplit]

/-- What is left up to the last step is nothing, or ends in a step. -/
theorem upToStep_cases (names : List (List Char)) :
    upToStep names = [] ∨ ∃ init last, upToStep names = init ++ [last] ∧ isIdle last = false := by
  by_cases h : names.rdropWhile isIdle = []
  · exact .inl h
  · refine .inr ⟨_, _, (List.dropLast_concat_getLast h).symm, ?_⟩
    simpa using List.rdropWhile_last_not (p := isIdle) names h

/-- Without its last step, the steps of a path that is given by its names. -/
theorem filter_dropLast_upToStep (names : List (List Char)) :
    (upToStep (upToStep names).dropLast).filter (!isIdle ·) =
      (names.filter (!isIdle ·)).dropLast := by
  rw [filter_upToStep, ← filter_upToStep names]
  rcases upToStep_cases names with h | ⟨init, last, h, hlast⟩
  · simp [h]
  · simp [h, hlast]

/-! ### The directory -/

/-- The names of the directory of a path. -/
def directoryNames (p : String) : List (List Char) :=
  upToStep (upToStep (splitSlash p.toList)).dropLast

theorem directory_eq (p : String) :
    directory p = if isRooted p && directoryNames p = [] then "/"
      else String.ofList (['/'].intercalate (directoryNames p)) := rfl

theorem directoryNames_isPrefix (p : String) : directoryNames p <+: splitSlash p.toList :=
  (upToStep_isPrefix _).trans ((List.dropLast_prefix _).trans (upToStep_isPrefix _))

theorem steps_ofList (cs : List Char) :
    steps (String.ofList cs) = ((splitSlash cs).filter (!isIdle ·)).map String.ofList := by
  rw [steps, String.toList_ofList]

theorem steps_directory (p : String) : steps (directory p) = (steps p).dropLast := by
  have hsteps : (directoryNames p).filter (!isIdle ·) =
      ((splitSlash p.toList).filter (!isIdle ·)).dropLast := filter_dropLast_upToStep _
  have hp : (steps p).dropLast = ((directoryNames p).filter (!isIdle ·)).map String.ofList := by
    rw [hsteps, steps, List.map_dropLast]
  rw [hp, directory_eq]
  by_cases hnil : directoryNames p = []
  · cases hr : isRooted p <;> simp [hnil] <;> decide
  · have hslash : ∀ name ∈ directoryNames p, '/' ∉ name := fun name hname =>
      slash_notMem_of_mem_splitSlash ((directoryNames_isPrefix p).subset hname)
    rw [if_neg (by simp [hnil]), steps_ofList, splitSlash_intercalate hnil hslash]

/-- The names of a directory end in a step, so they are more than one empty name. -/
theorem directoryNames_ne (p : String) : directoryNames p ≠ [[]] := by
  intro h
  have hcases := upToStep_cases (upToStep (splitSlash p.toList)).dropLast
  rcases hcases with hnil | ⟨init, last, hl, hlast⟩
  · exact List.cons_ne_nil _ _ (h.symm.trans hnil)
  · have hsingle : init ++ [last] = [] ++ [[]] := hl.symm.trans h
    obtain ⟨-, hempty⟩ := List.append_inj' hsingle rfl
    rw [(List.cons.inj hempty).1] at hlast
    exact absurd hlast (by decide)

theorem isRooted_ofList (cs : List Char) :
    isRooted (String.ofList cs) = (cs.head? = some '/' : Bool) := by
  rw [isRooted, String.toList_ofList]

theorem isRooted_directory (p : String) : isRooted (directory p) = isRooted p := by
  obtain ⟨tail, hprefix⟩ := directoryNames_isPrefix p
  have hne := directoryNames_ne p
  rw [directory_eq]
  cases hp : p.toList with
  | nil =>
    have hr : isRooted p = false := by simp [isRooted, hp]
    rw [hp, splitSlash, List.append_eq_singleton_iff] at hprefix
    rcases hprefix with ⟨h, -⟩ | ⟨h, -⟩
    · rw [hr, h]
      decide
    · exact absurd h hne
  | cons c cs =>
    rw [hp] at hprefix
    cases hnames : directoryNames p with
    | nil => cases hr : isRooted p <;> simp <;> decide
    | cons first rest =>
      rw [if_neg (by simp), isRooted_ofList, isRooted, hp]
      rw [hnames] at hprefix hne
      by_cases hc : c = '/'
      · -- the first name is empty, so another one stands behind a slash
        subst hc
        rw [splitSlash, List.cons_append] at hprefix
        obtain ⟨rfl, -⟩ := List.cons.inj hprefix
        cases rest with
        | nil => exact absurd rfl hne
        | cons second rest => simp [List.intercalate, List.intersperse]
      · obtain ⟨name, others, -, hsplit⟩ := splitSlash_cons hc cs
        rw [hsplit, List.cons_append] at hprefix
        obtain ⟨rfl, -⟩ := List.cons.inj hprefix
        cases rest <;> simp [List.intercalate, List.intersperse]

end InitiatorStore.Path
