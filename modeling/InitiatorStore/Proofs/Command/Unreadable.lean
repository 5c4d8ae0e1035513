import InitiatorStore.Proofs.Command.Run

/-!
# Documents that cannot be read

Loading a document that cannot be read is no failure of a run: the store stays empty, and the failure
is only logged.  What becomes of the run depends on the command (`Command.Runs.of_corrupt`).

* A command that shows what there is of something, whatever that is, succeeds, and shows an empty
  configuration (`Command.isOverview`).
* A command that looks for a target or a portal is refused, since there is none.
* A command that changes something fails when it commits, or has been refused before.

In no case is a file changed.
-/

namespace InitiatorStore

namespace Command

variable {c : Config} {files files' : FileTree} {command : Command} {ending : Ending}
variable {s : Store} {v : Vault} {e : PrefsError}

/-- Whether a command shows what there is of something, and asks for nothing to be there. -/
def isOverview : Command → Bool
  | .listTargets | .showDiscovery | .initiator none none none => true
  | _ => false

/-- What such a command shows of an empty configuration. -/
def emptyLines : Command → List String
  | .listTargets => ["No targets configured."]
  | .showDiscovery => ["No discovery results."]
  | _ => ["Initiator:", "  Name:           ", "  Alias:          ", "  Authentication: None"]

/-! ### Commands on an empty store -/

theorem react_of_isOverview (hcache : s.cache = {}) (h : command.isOverview = true) (v : Vault) :
    ∃ r, command.react s v = .ok r ∧ r.output = command.emptyLines ∧ r.changed? = none := by
  obtain ⟨cache, prefs, removal⟩ := s
  obtain rfl : cache = {} := hcache
  cases command with
  | listTargets | showDiscovery => exact ⟨_, rfl, rfl, rfl⟩
  | initiator name? alias? request? =>
    cases name? <;> cases alias? <;> cases request? <;> first | exact ⟨_, rfl, rfl, rfl⟩ | cases h
  | _ => cases h

/-- Without any target, a command that changes nothing and is no overview is refused. -/
theorem exists_refusal (hcache : s.cache = {}) (h : command.isOverview = false)
    (hns : command.subject? = none) (v : Vault) :
    ∃ refusal, command.react s v = .error refusal := by
  obtain ⟨cache, prefs, removal⟩ := s
  obtain rfl : cache = {} := hcache
  cases command with
  | showTarget | session | connection => exact ⟨_, rfl⟩
  | initiator name? alias? request? =>
    cases name? <;> cases alias? <;> cases request? <;> first | (cases h; done) | cases hns
  | listTargets | showDiscovery => cases h
  | addTarget | removeTarget | addPortal | removePortal | setAuth | clearDiscovery => cases hns

/-- An overview of an empty configuration. -/
theorem runWith_of_isOverview (hcache : (startStore c files).cache = {})
    (h : command.isOverview = true) :
    (command.runWith c files).ending = .done ∧
      (command.runWith c files).output = command.emptyLines := by
  obtain ⟨r, hreact, houtput, hchanged⟩ := react_of_isOverview hcache h c.vault
  rw [startStore] at hreact
  unfold runWith
  simp only [Store.result_fresh]
  split
  · next hrefused => cases hrefused.symm.trans hreact
  · next r' hreact' =>
    obtain rfl := Except.ok.inj (hreact'.symm.trans hreact)
    split
    · exact ⟨rfl, houtput⟩
    · next hchanged' => cases hchanged'.symm.trans hchanged

/-! ### Runs -/

/-- The store is empty before a command if the document cannot be read. -/
theorem cache_startStore_of_corrupt (h : files.Corrupt c.document e) :
    (startStore c files).cache = {} := by
  have hread : (c.medium files).read = .error e := FileTree.readDocument_eq_error.2 h
  rw [startStore]
  exact Store.cache_fresh_of_read_eq_error hread c.removal

/-- So it is if the document is empty. -/
theorem cache_startStore_of_empty (h : files.readDocument c.document = .ok ∅) :
    (startStore c files).cache = {} := by
  have hread : (c.medium files).read = .ok ∅ := h
  rw [startStore]
  exact Store.cache_fresh_of_read_eq_empty hread c.removal

/-- A command that has something to commit cannot commit it, and the files stay as they are. -/
theorem Runs.of_corrupt_of_subject? (h : Runs c files command ending files')
    (hcorrupt : files.Corrupt c.document e) {ns : Namespace} (hns : command.subject? = some ns) :
    files' = files ∧ ((∃ refusal, ending = .failed (.refused refusal)) ∨
      ending = .failed (.write c.document e)) := by
  have hread : (c.medium files).read = .error e := FileTree.readDocument_eq_error.2 hcorrupt
  have hfails : ∀ {r : Reaction} {s : Store} {v : Vault} {y : Sync},
      command.react (startStore c files) c.vault = .ok r → r.changed? = some (s, v) →
      s.Synchronizes (c.medium files) y → y.medium = c.medium files ∧ y.result = .error e := by
    intro r s v y hreact hchanged hsync
    rw [changed?_of_react hreact (c.medium files), hns] at hchanged
    obtain rfl := congrArg Prod.fst (Option.some.inj hchanged)
    have hallowed := StoreOp.refusals_runAll (s := startStore c files) (m := c.medium files)
      (subject?_edits hns (startStore c files)) c.vault
    rw [refusals_startStore] at hallowed
    obtain ⟨hmedium, e', hresult, hnone⟩ :=
      hsync.of_read_eq_error hread (isModified_runAll hreact hns (c.medium files))
    exact ⟨hmedium, hnone hallowed ▸ hresult⟩
  cases h with
  | refused => exact ⟨rfl, .inl ⟨_, rfl⟩⟩
  | shown hreact hchanged =>
    rw [changed?_of_react hreact (c.medium files), hns] at hchanged
    cases hchanged
  | committed hreact hchanged hsync hok =>
    cases (hfails hreact hchanged hsync).2.symm.trans hok
  | uncommitted hreact hchanged hsync herr =>
    obtain ⟨hmedium, hresult⟩ := hfails hreact hchanged hsync
    obtain rfl := Except.error.inj (hresult.symm.trans herr)
    exact ⟨congrArg Medium.files hmedium, .inr rfl⟩

/-- How a run ends on a document that cannot be read. -/
theorem Runs.of_corrupt (h : Runs c files command ending files')
    (hcorrupt : files.Corrupt c.document e) :
    files' = files ∧ (command.isOverview = true → ending = .done) ∧
      (command.isOverview = false → (∃ refusal, ending = .failed (.refused refusal)) ∨
        ending = .failed (.write c.document e)) := by
  have hcache := cache_startStore_of_corrupt hcorrupt
  cases hns : command.subject? with
  | some ns =>
    obtain ⟨hfiles, hending⟩ := h.of_corrupt_of_subject? hcorrupt hns
    refine ⟨hfiles, fun hoverview => ?_, fun _ => hending⟩
    obtain ⟨r, hreact, -, hchanged⟩ := react_of_isOverview hcache hoverview c.vault
    rw [changed?_of_react hreact (c.medium files), hns] at hchanged
    cases hchanged
  | none =>
    refine ⟨h.files_of_subject? hns, fun hoverview => ?_, fun hoverview => .inl ?_⟩
    · obtain ⟨r, hreact, -, hchanged⟩ := react_of_isOverview hcache hoverview c.vault
      cases h with
      | refused hrefused => cases hrefused.symm.trans hreact
      | shown | committed => rfl
      | uncommitted hreact' hchanged' =>
        obtain rfl := Except.ok.inj (hreact'.symm.trans hreact)
        cases hchanged'.symm.trans hchanged
    · obtain ⟨refusal, hrefusal⟩ := exists_refusal hcache hoverview hns c.vault
      cases h with
      | refused => exact ⟨_, rfl⟩
      | shown hreact | committed hreact | uncommitted hreact =>
        cases hreact.symm.trans hrefusal

end Command

/-- **Runs on a document that cannot be read.**  No file is changed.  An overview succeeds, and shows
what it shows of an empty document; every other command fails, because it is refused or because it
cannot commit. -/
theorem run_of_corrupt {files : FileTree} {words : List String} {i : Invocation} {c : Config}
    {e : PrefsError} (hi : Invocation.ofWords? words = some i)
    (hc : Config.loadOrDefault files i.config = .ok c)
    (hcorrupt : files.Corrupt c.document e) :
    (run files words).files = files ∧
    (i.command.isOverview = true →
      (run files words).ending = .done ∧ (run files words).output = i.command.emptyLines ∧
      ∀ files', files'.readDocument c.document = .ok ∅ →
        (i.command.runWith c files').output = i.command.emptyLines) ∧
    (i.command.isOverview = false →
      (∃ refusal, (run files words).ending = .failed (.refused refusal)) ∨
        (run files words).ending = .failed (.write c.document e)) := by
  rw [run_eq hi hc]
  obtain ⟨hfiles, -, hfails⟩ := (i.command.runs c files).of_corrupt hcorrupt
  refine ⟨hfiles, fun hoverview => ?_, hfails⟩
  obtain ⟨hending, houtput⟩ :=
    Command.runWith_of_isOverview (Command.cache_startStore_of_corrupt hcorrupt) hoverview
  exact ⟨hending, houtput, fun files' hempty =>
    (Command.runWith_of_isOverview (Command.cache_startStore_of_empty hempty) hoverview).2⟩

/-- The document of the default configuration is a text that is no document. -/
def garbledFiles : FileTree :=
  (((({} : FileTree).put ⟨true, ["var"]⟩ .folder).put ⟨true, ["var", "lib"]⟩ .folder).put
    ⟨true, ["var", "lib", "iscsi-initiator"]⟩ .folder).put
    ⟨true, ["var", "lib", "iscsi-initiator", "com.github.iscsi-initiator.json"]⟩
    (.file "not json".toUTF8)

theorem corrupt_garbledFiles : garbledFiles.Corrupt ({} : Config).document .json :=
  FileTree.readDocument_eq_error.1 (by decide +kernel)

theorem run_of_corrupt_garbledFiles :
    (run garbledFiles ["discovery", "show"]).ending = .done ∧
    (run garbledFiles ["discovery", "show"]).output = ["No discovery results."] ∧
    (run garbledFiles ["discovery", "show"]).files = garbledFiles := by
  have hi : Invocation.ofWords? ["discovery", "show"] =
      some ⟨Invocation.defaultConfig, .showDiscovery⟩ := by decide +kernel
  have hc : Config.loadOrDefault garbledFiles Invocation.defaultConfig = .ok {} := by
    decide +kernel
  obtain ⟨hfiles, hoverview, -⟩ := run_of_corrupt hi hc corrupt_garbledFiles
  obtain ⟨hending, houtput, -⟩ := hoverview rfl
  exact ⟨hending, houtput, hfiles⟩

/-- The list of targets succeeds on a document that cannot be read, and says that there are none. -/
theorem run_done_of_garbledFiles :
    Invocation.ofWords? ["targets"] = some ⟨Invocation.defaultConfig, .listTargets⟩ ∧
    Config.loadOrDefault garbledFiles Invocation.defaultConfig = .ok {} ∧
    garbledFiles.Corrupt ({} : Config).document .json ∧
    (run garbledFiles ["targets"]).ending = .done ∧
    (run garbledFiles ["targets"]).text = "No targets configured.\n" :=
  ⟨by decide +kernel, by decide +kernel, corrupt_garbledFiles, by decide +kernel,
    by decide +kernel⟩

end InitiatorStore
