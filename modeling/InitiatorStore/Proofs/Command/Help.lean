import InitiatorStore.Command.Run

/-!
# Requests for help

No option is spelled like a request for help, so words that ask for help are no arguments
(`Grammar.ofWords?_of_asksHelp`).  A command line that asks for help asks for nothing else
(`Invocation.ofWords?_of_asksHelp`), and all that comes of it is help (`run_of_asksHelp`).
-/

namespace InitiatorStore

/-- No option of a command is spelled like a request for help. -/
def OptionName.Apart (known : List OptionName) : Prop :=
  ∀ o ∈ known, o.isSpelled ['-', 'h'] = false ∧ o.isSpelled "--help".toList = false

theorem Word.find?_of_asksHelp {known : List OptionName} (hknown : OptionName.Apart known)
    {spelling : List Char} {value? : Option String}
    (h : (Word.option spelling value?).asksHelp = true) :
    known.find? (·.isSpelled spelling) = none := by
  refine List.find?_eq_none.2 fun o ho => ?_
  obtain ⟨hletter, hname⟩ := hknown o ho
  simp only [asksHelp, Bool.or_eq_true, Bool.and_eq_true, decide_eq_true_eq] at h
  rcases h with rfl | ⟨rfl, -⟩
  · simp [hletter]
  · rw [hname]
    simp

namespace Grammar

variable {g : Grammar} {known : List OptionName} {words : List String}

/-- An option that a grammar has under a spelling is found among the known ones. -/
theorem exists_find? (hg : ∀ o ∈ g.options, o.1 ∈ known) {spelling : List Char}
    {o : OptionName × (String → Bool)}
    (h : g.options.find? (·.1.isSpelled spelling) = some o) :
    ∃ o', known.find? (·.isSpelled spelling) = some o' := by
  have hmem := hg o (List.mem_of_find?_eq_some h)
  have hspelled : o.1.isSpelled spelling = true := by simpa using List.find?_some h
  exact Option.isSome_iff_exists.1 (List.find?_isSome.2 ⟨o.1, hmem, hspelled⟩)

theorem mem_of_without {o : OptionName} (hg : ∀ o ∈ g.options, o.1 ∈ known) :
    ∀ o' ∈ (g.without o).options, o'.1 ∈ known :=
  fun o' ho' => hg o' ((List.mem_filter.1 ho').1)

/-- Up to the word that asks for help, words are sorted into operands and options as if they were
arguments; that word is neither. -/
theorem ofWords?_of_asksHelp (hknown : OptionName.Apart known)
    (hg : ∀ o ∈ g.options, o.1 ∈ known) (h : g.asksHelp words = true) :
    Arguments.ofWords? known words = none := by
  fun_induction asksHelp g words with
  | case1 | case2 | case4 | case6 | case8 => cases h
  | case3 g word rest hword takes operands hoperands ih =>
    rw [Bool.and_eq_true] at h
    rw [Arguments.ofWords?, hword, ih hg h.2]
    rfl
  | case5 g word rest spelling value? hword hhelp =>
    rw [Arguments.ofWords?, hword]
    simp only [Word.find?_of_asksHelp hknown hhelp]
  | case7 g word spelling o takes value rest hfound hword hhelp ih =>
    rw [Bool.and_eq_true] at h
    obtain ⟨o', ho'⟩ := exists_find? hg hfound
    rw [Arguments.ofWords?, hword]
    simp only [ho', ih (mem_of_without hg) h.2]
    rfl
  | case9 g word spelling o takes value rest hfound hword hhelp ih =>
    simp only [Bool.and_eq_true, decide_eq_true_eq] at h
    obtain ⟨o', ho'⟩ := exists_find? hg hfound
    rw [Arguments.ofWords?, hword]
    simp only [ho', h.1.1, ih (mem_of_without hg) h.2]
    rfl

end Grammar

namespace Command

variable {name : String} {words : List String} {g : Grammar}

/-- Where the words behind a name are no arguments, there is no command. -/
theorem ofWords?_of_grammar? (hg : grammar? name = some g)
    (h : Arguments.ofWords? (g.options.map (·.1)) words = none) :
    ofWords? (name :: words) = none := by
  unfold grammar? at hg
  split at hg <;> cases hg
  all_goals
    simp only [List.map] at h
    simp only [ofWords?, operands?, h]
    rfl

theorem apart_of_grammar? (hg : grammar? name = some g) :
    OptionName.Apart (g.options.map (·.1)) := by
  unfold grammar? at hg
  unfold OptionName.Apart
  split at hg <;> cases hg <;> decide

/-- A word that asks for help is the name of no command. -/
theorem ofWords?_of_name (h : (Word.ofString name).asksHelp = true) (words : List String) :
    ofWords? (name :: words) = none ∧ ofWords? ("discovery" :: name :: words) = none := by
  constructor
  · unfold ofWords?
    split
    any_goals rfl
    all_goals
      next hname =>
        cases hname
        exact absurd h (by decide)
  · unfold ofWords?
    split
    any_goals rfl
    all_goals
      next hname =>
        obtain ⟨hfirst, hrest⟩ := List.cons.inj hname
        first
        | exact absurd hfirst (by decide)
        | obtain ⟨rfl, -⟩ := List.cons.inj hrest
          exact absurd h (by decide)

theorem ofWords?_of_discoveryAsksHelp (h : discoveryAsksHelp words = true) :
    ofWords? ("discovery" :: words) = none := by
  unfold discoveryAsksHelp at h
  split at h
  · cases h
  · rfl
  · rfl
  · next name words _ _ =>
    rw [Bool.or_eq_true, Bool.and_eq_true] at h
    rcases h with hname | ⟨hname, hwords⟩
    · exact (ofWords?_of_name hname words).2
    · have hnone : Arguments.ofWords? [] words = none :=
        Grammar.ofWords?_of_asksHelp nofun (List.forall_mem_nil _) hwords
      simp only [isAboutDiscovery, Bool.or_eq_true, decide_eq_true_eq] at hname
      rcases hname with rfl | rfl <;> simp only [ofWords?, operands?, hnone] <;> rfl

/-- What asks for help is no command. -/
theorem ofWords?_of_asksHelp (h : asksHelp words = true) : ofWords? words = none := by
  unfold asksHelp at h
  split at h
  · cases h
  · rfl
  · rfl
  · rfl
  · exact ofWords?_of_discoveryAsksHelp h
  · next name words _ _ _ _ =>
    rw [Bool.or_eq_true, Option.any_eq_true] at h
    rcases h with hname | ⟨g, hg, hwords⟩
    · exact (ofWords?_of_name hname words).1
    · refine ofWords?_of_grammar? hg ?_
      exact g.ofWords?_of_asksHelp (apart_of_grammar? hg) (fun o => List.mem_map_of_mem) hwords

end Command

theorem Invocation.ofWords?_of_asksHelp {words : List String} (h : asksHelp words = true) :
    ofWords? words = none := by
  rw [ofWords?]
  rw [asksHelp] at h
  split at h
  · next config rest hrest =>
    rw [hrest]
    simp only [Option.bind_eq_bind, Option.bind_some, Command.ofWords?_of_asksHelp h]
    rfl
  · next hnone =>
    rw [hnone]
    rfl

/-- A command line that asks for help changes no file and is answered with help. -/
theorem run_of_asksHelp {files : FileTree} {words : List String}
    (h : Invocation.asksHelp words = true) : run files words = { ending := .helped, files } := by
  rw [run, Invocation.ofWords?_of_asksHelp h, h]
  rfl

-- a target may be missing before the word that asks for help, but not be given twice
example : Invocation.asksHelp ["--config", "c", "session", "--max-connections=4", "-h", "t"] = true ∧
    Invocation.asksHelp ["session", "t", "t", "-h"] = false := by decide +kernel

end InitiatorStore
