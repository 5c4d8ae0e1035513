import InitiatorStore.Command.Run
import InitiatorStore.Proofs.Command.Edits
import InitiatorStore.Proofs.Store.Matches

/-!
# What a run of the program comes to

Bringing the fresh store into agreement before the command never fails and leaves the files as they
are.  After that a run ends in one of four ways (`Command.runs`): the command is refused, or it
changes nothing, or what it changes is committed, or it cannot be committed.

A run that fails leaves the document as it was, and a run of a command that shows something leaves
all files as they were (`run_unchanged`).  If there was no document, the path to it has to be
grounded: a failing write keeps the directories that it made, and a path that steps up out of one of
them leads to another place from then on.  A command that is not refused does not fail where the
document can be read and written (`Command.Runs.done_of_writable`).
-/

namespace InitiatorStore

namespace Command

variable {c : Config} {files files' : FileTree} {command : Command} {ending : Ending}

/-- The store on which a command is carried out. -/
def startStore (c : Config) (files : FileTree) : Store :=
  (({ removal := c.removal } : Store).synchronize (c.medium files)).store

theorem refusals_startStore (c : Config) (files : FileTree) :
    (startStore c files).prefs.refusals = {} := by
  rw [startStore]
  exact (Store.synchronizes _ _).refusals_of_ok (Store.result_fresh c.removal _)

/-- How a run of a command under a configuration ends, and the files afterwards. -/
inductive Runs (c : Config) (files : FileTree) (command : Command) : Ending → FileTree → Prop
  | refused {refusal : Refusal} :
      command.react (startStore c files) c.vault = .error refusal →
      Runs c files command (.failed (.refused refusal)) files
  | shown {r : Reaction} :
      command.react (startStore c files) c.vault = .ok r → r.changed? = none →
      Runs c files command .done files
  | committed {r : Reaction} {s : Store} {v : Vault} {y : Sync} :
      command.react (startStore c files) c.vault = .ok r → r.changed? = some (s, v) →
      s.Synchronizes (c.medium files) y → y.result = .ok () →
      Runs c files command .done y.medium.files
  | uncommitted {r : Reaction} {s : Store} {v : Vault} {y : Sync} {e : PrefsError} :
      command.react (startStore c files) c.vault = .ok r → r.changed? = some (s, v) →
      s.Synchronizes (c.medium files) y → y.result = .error e →
      Runs c files command (.failed (.write c.document e)) y.medium.files

theorem runs (c : Config) (files : FileTree) (command : Command) :
    Runs c files command (command.runWith c files).ending (command.runWith c files).files := by
  unfold runWith
  simp only [Store.result_fresh, Store.medium_fresh]
  split
  · next hreact => exact .refused hreact
  · next r hreact =>
    split
    · next hchanged => exact .shown hreact hchanged
    · next s v hchanged =>
      have hsync := s.synchronizes (c.medium files)
      cases hfinish : (s.synchronize (c.medium files)).result with
      | ok => exact .committed hreact hchanged hsync hfinish
      | error e => exact .uncommitted hreact hchanged hsync hfinish

namespace Runs

/-- A command that changes no namespace leaves all files as they are. -/
theorem files_of_subject? (h : Runs c files command ending files') (hns : command.subject? = none) :
    files' = files := by
  have hunchanged : ∀ {r : Reaction}, command.react (startStore c files) c.vault = .ok r →
      r.changed? = none := by
    intro r hreact
    rw [changed?_of_react hreact (c.medium files), hns]
    rfl
  cases h with
  | refused | shown => rfl
  | committed hreact hchanged | uncommitted hreact hchanged =>
    cases (hunchanged hreact).symm.trans hchanged

/-- A run that fails leaves the document as it was, unless there was none and its path is not
grounded. -/
theorem find?_of_failed (h : Runs c files command ending files') (hclosed : files.Closed)
    (hfailed : ending ≠ .done)
    (hthere : files.find? c.document ≠ none ∨ files.Grounded c.document) :
    files'.find? c.document = files.find? c.document := by
  cases h with
  | refused => rfl
  | shown | committed => exact absurd rfl hfailed
  | uncommitted _ _ hsync herr => exact hsync.find?_of_error hclosed rfl hthere herr

/-- A command that is not refused succeeds, where the document can be read and written. -/
theorem done_of_writable (h : Runs c files command ending files') {d : Document}
    (hread : files.readDocument c.document = .ok d) (hm : (c.medium files).Writable)
    (hreact : (command.react (startStore c files) c.vault).isOk = true) : ending = .done := by
  cases h with
  | refused hrefused =>
    rw [hrefused] at hreact
    cases hreact
  | shown | committed => rfl
  | @uncommitted r s v y _ hr hchanged hsync herr =>
    rw [changed?_of_react hr (c.medium files)] at hchanged
    obtain ⟨ns, hns, heq⟩ := Option.map_eq_some_iff.1 hchanged
    obtain rfl := congrArg Prod.fst heq
    have hallowed := StoreOp.refusals_runAll (s := startStore c files) (m := c.medium files)
      (subject?_edits hns (startStore c files)) c.vault
    rw [refusals_startStore] at hallowed
    cases herr.symm.trans (hsync.ok_of_writable hallowed hread hm)

end Runs

end Command

/-- A run of the program with a configuration is a run of the command. -/
theorem run_eq {files : FileTree} {words : List String} {i : Invocation} {c : Config}
    (hi : Invocation.ofWords? words = some i) (hc : Config.loadOrDefault files i.config = .ok c) :
    run files words = i.command.runWith c files := by
  simp only [run, hi, Invocation.run, hc]

/-- A run that fails leaves the document as it was, provided that there is one or that its path is
grounded; and no file is changed by a command that shows something, nor where the words are no
command line or there is no configuration. -/
theorem run_unchanged {files : FileTree} (hclosed : files.Closed) (words : List String) :
    (∀ i c, Invocation.ofWords? words = some i → Config.loadOrDefault files i.config = .ok c →
      (run files words).ending ≠ .done →
      (files.find? c.document ≠ none ∨ files.Grounded c.document) →
      (run files words).files.find? c.document = files.find? c.document) ∧
    ((∀ i c, Invocation.ofWords? words = some i → Config.loadOrDefault files i.config = .ok c →
      i.command.subject? = none) → (run files words).files = files) := by
  refine ⟨fun i c hi hc hfailed hthere => ?_, fun hshows => ?_⟩
  · rw [run_eq hi hc] at hfailed ⊢
    exact (i.command.runs c files).find?_of_failed hclosed hfailed hthere
  · cases hi : Invocation.ofWords? words with
    | none => simp only [run, hi]
    | some i =>
      cases hc : Config.loadOrDefault files i.config with
      | error e => simp only [run, hi, Invocation.run, hc]
      | ok c =>
        rw [run_eq hi hc]
        exact (i.command.runs c files).files_of_subject? (hshows i c hi hc)

/-- A file stands where the directory of the document would have to be made. -/
def blockedFiles : FileTree := ({} : FileTree).put ⟨true, ["var"]⟩ (.file .empty)

theorem run_unchanged_blockedFiles : blockedFiles.Closed ∧
    (run blockedFiles ["add-target", "t"]).ending = .failed (.write ({} : Config).document .io) ∧
    (run blockedFiles ["add-target", "t"]).files.find? ({} : Config).document =
      blockedFiles.find? ({} : Config).document ∧
    (run blockedFiles ["targets"]).files = blockedFiles := by
  have hclosed : blockedFiles.Closed := FileTree.closed_empty.put (by decide) (by decide) _
  have hending : (run blockedFiles ["add-target", "t"]).ending =
      .failed (.write ({} : Config).document .io) := by decide +kernel
  have hgrounded : blockedFiles.Grounded ({} : Config).document :=
    FileTree.grounded_of_notMem (by decide)
  refine ⟨hclosed, hending, ?_, ?_⟩
  · exact (run_unchanged hclosed ["add-target", "t"]).1
      ⟨Invocation.defaultConfig, .addTarget { name := "t" }⟩ {} (by decide +kernel)
      (by decide +kernel) (by rw [hending]; nofun) (.inr hgrounded)
  · refine (run_unchanged hclosed ["targets"]).2 fun i c hi _ => ?_
    have hwords : Invocation.ofWords? ["targets"] =
        some ⟨Invocation.defaultConfig, .listTargets⟩ := by decide +kernel
    obtain rfl := Option.some.inj (hwords.symm.trans hi)
    rfl

/-- A configuration whose directory is reached through one that is not there, and a document of the
same name beside it. -/
def sidestepFiles : FileTree :=
  ((({} : FileTree).put ⟨false, ["c"]⟩ (.file
      "[store]\npath = \"d/app.json.tmp/..\"\napp_id = \"app\"\n".toUTF8)).put
    ⟨false, ["d"]⟩ .folder).put ⟨false, ["d", "app.json"]⟩ (.file "\x7b\x7d".toUTF8)

/-- Without a grounded path a run that fails may leave a document where there was none: the attempt
makes the directory that the path leads through, and so what stands behind it is reached. -/
theorem exists_document_of_sidestepFiles : ∃ i c,
    Invocation.ofWords? ["--config", "c", "add-target", "t"] = some i ∧
    Config.loadOrDefault sidestepFiles i.config = .ok c ∧
    (run sidestepFiles ["--config", "c", "add-target", "t"]).ending =
      .failed (.write c.document .io) ∧
    sidestepFiles.find? c.document = none ∧
    (run sidestepFiles ["--config", "c", "add-target", "t"]).files.find? c.document =
      some (.file "\x7b\x7d".toUTF8) :=
  ⟨⟨"c", .addTarget { name := "t" }⟩, { path := "d/app.json.tmp/..", appId := "app" },
    by decide +kernel, by decide +kernel, by decide +kernel, by decide +kernel,
    by decide +kernel⟩

end InitiatorStore
