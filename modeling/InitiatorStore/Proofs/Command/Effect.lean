import InitiatorStore.Proofs.Command.Run

/-!
# What commands write

A run of a command that changes something, and that succeeds, writes one key of the document
(`run_carriesOut`): under the key of its namespace stands what the operations of the command make of
the value that was read there, and everything else in the document stays.  In particular the
parameters that a command sets are there for whoever opens the document next: those that were there,
with what was given in place of what it stands for.
-/

namespace InitiatorStore

/-! ### Stores that have read a document -/

/-- The values that a document holds of the namespaces, without marks. -/
def Cache.ofDocument (d : Document) : Cache where
  targets := { value := (d.get? Namespace.targets.key).bind ofNode? }
  initiator := { value := (d.get? Namespace.initiator.key).bind ofNode? }
  discovery := { value := (d.get? Namespace.discovery.key).bind ofNode? }

/-- A store that has read a document, and nothing more. -/
def Store.opened (removal : Removal) (d : Document) : Store :=
  { cache := .ofDocument d, removal }

namespace Cache

variable {ns : Namespace} {c : Cache} {d d' : Document}

theorem agree_ofDocument (ns : Namespace) (c : Cache) (d : Document) :
    Agree ns (ofDocument d) (c.load ns (d.get? ns.key)) := by
  cases ns <;> rfl

theorem isModified_ofDocument (ns : Namespace) (d : Document) :
    (ofDocument d).isModified ns = false := by
  cases ns <;> rfl

/-- Only what stands under the key of a namespace counts for its value. -/
theorem agree_ofDocument_of_get? (h : d'.get? ns.key = d.get? ns.key) :
    Agree ns (ofDocument d) (ofDocument d') := by
  cases ns <;> exact congrArg (Option.bind · ofNode?) h.symm

/-- A value that is written is like what is read of it. -/
theorem AlikeAt.ofDocument (h : AlikeAt Likeness.encoded ns c c)
    (hwritten : d.get? ns.key = c.node? ns) :
    AlikeAt Likeness.encoded ns c (ofDocument d) := by
  have hvalue := agree_ofDocument ns {} d
  rw [hwritten] at hvalue
  exact (h.load_node? {}).congr (.refl ns c) hvalue

end Cache

namespace Store

variable {s t : Store} {target address : String}

/-! Marks do not count for the parameters that are shown. -/

theorem session?_settle (s : Store) (removal : Removal) (target : String) :
    ({ cache := s.cache.settle, removal } : Store).session? target = s.session? target := rfl

theorem connection?_settle (s : Store) (removal : Removal) (target address : String) :
    ({ cache := s.cache.settle, removal } : Store).connection? target address =
      s.connection? target address := rfl

/-- Stores with the same encodings show the same session parameters. -/
theorem Alike.session?_eq (h : Alike Likeness.encoded s t) (target : String) :
    s.session? target = t.session? target := by
  have hop : StoreOp.session target ≠ .synchronize := nofun
  exact StoreAnswer.session.inj (h.answer hop .memory .memory .memory)

/-- Stores with the same encodings show the same connection parameters. -/
theorem Alike.connection?_eq (h : Alike Likeness.encoded s t) (target address : String) :
    s.connection? target address = t.connection? target address := by
  have hop : StoreOp.connection target address ≠ .synchronize := nofun
  exact StoreAnswer.connection.inj (h.answer hop .memory .memory .memory)

end Store

namespace Command

/-- A command comes to the same operations on stores with the same encodings. -/
theorem edits_eq {s t : Store} (h : Store.Alike Likeness.encoded s t) (command : Command) :
    command.edits s = command.edits t := by
  cases command with
  | session target => simp only [edits, h.session?_eq target]
  | connection target address => simp only [edits, h.connection?_eq target address]
  | _ => rfl

variable {c : Config} {files files' : FileTree} {command : Command} {ending : Ending}
variable {ns : Namespace} {d d' : Document}

/-! ### Before the command -/

theorem sound_startStore (c : Config) (files : FileTree) :
    (startStore c files).Sound (c.medium files) := by
  have hsound := (Store.synchronizes _ _).sound (Store.sound_fresh {} c.removal (c.medium files))
  rwa [Store.medium_fresh] at hsound

/-- Nothing is marked before the command. -/
theorem isModified_startStore (c : Config) (files : FileTree) (ns : Namespace) :
    (startStore c files).isModified ns = false := by
  rw [startStore]
  exact (Store.synchronizes _ _).isModified_of_ok (Store.result_fresh c.removal _) ns

/-- A command is carried out on a store that has read the document. -/
theorem alike_startStore (hread : files.readDocument c.document = .ok d) :
    Store.Alike Likeness.encoded (startStore c files) (.opened c.removal d) := by
  have hmarks := isModified_startStore c files
  have hmedium : (c.medium files).read = .ok d := hread
  rw [startStore] at hmarks ⊢
  obtain ⟨-, -, hvalue⟩ := Store.synchronize_fresh (r := c.removal) hmedium rfl
  refine ⟨Cache.alike_of_at (fun ns => ?_) fun ns => ?_, ?_⟩
  · exact (Cache.alikeAt_load ns {} {} _).congr (hvalue ns) (Cache.agree_ofDocument ns {} d)
  · exact (hmarks ns).trans (Cache.isModified_ofDocument ns d).symm
  · exact (Store.synchronizes _ _).removal

/-! ### After the command -/

/-- What a command that is carried out makes of a document. -/
structure CarriesOut (command : Command) (removal : Removal) (ns : Namespace) (d d' : Document) :
    Prop where
  /-- What stands under other keys stays. -/
  kept : ∀ k, k ≠ ns.key → d'.get? k = d.get? k
  /-- Under the key of the namespace stands what the operations of the command make of what was
  read there, whatever vault and medium they are run on. -/
  written : ∀ v m, d'.get? ns.key = (StoreOp.runAll (.opened removal d) v m
    (command.edits (.opened removal d))).1.cache.node? ns
  /-- The key of what was discovered is removed if that is cleared. -/
  cleared : command = .clearDiscovery → d'.get? ns.key = none
  /-- Session parameters that are set are read from the document as those that were read from it
  before, or the defaults, with what is given in place of what it stands for. -/
  session : ∀ target level? connections?, command = .session target level? connections? →
    (Store.opened removal d').session? target =
      some ((((Store.opened removal d).session? target).getD {}).replace level? connections?)
  /-- So are connection parameters. -/
  connection : ∀ target address header? data?,
    command = .connection target address header? data? →
    (Store.opened removal d').connection? target address = some
      ((((Store.opened removal d).connection? target address).getD {}).withDigests header? data?)

/-- The store after the operations of a command. -/
def editedStore (c : Config) (files : FileTree) (command : Command) : Store :=
  (StoreOp.runAll (startStore c files) c.vault (c.medium files)
    (command.edits (startStore c files))).1

section

variable {r : Reaction}

theorem sound_editedStore (c : Config) (files : FileTree) (hns : command.subject? = some ns) :
    (editedStore c files command).Sound (c.medium files) :=
  StoreOp.sound_runAll (sound_startStore c files) (synchronize_notMem_edits hns _) c.vault

/-- The other namespaces are as they were before the command. -/
theorem agree_editedStore (c : Config) (files : FileTree) (hns : command.subject? = some ns)
    {ns' : Namespace} (hne : ns' ≠ ns) :
    Cache.Agree ns' (editedStore c files command).cache (startStore c files).cache ∧
      (editedStore c files command).isModified ns' = (startStore c files).isModified ns' :=
  StoreOp.agree_runAll (subject?_edits hns _) hne c.vault

/-- The namespace of the command is marked, and no other. -/
theorem isModified_editedStore (hreact : command.react (startStore c files) c.vault = .ok r)
    (hns : command.subject? = some ns) (ns' : Namespace) :
    (editedStore c files command).isModified ns' = true ↔ ns' = ns := by
  constructor
  · intro hmark
    by_contra hne
    rw [(agree_editedStore c files hns hne).2, isModified_startStore] at hmark
    exact Bool.false_ne_true hmark
  · rintro rfl
    exact isModified_runAll hreact hns (c.medium files)

theorem alike_editedStore (hns : command.subject? = some ns)
    (hread : files.readDocument c.document = .ok d) (v : Vault) (m : Medium) :
    Store.Alike Likeness.encoded (editedStore c files command)
      (StoreOp.runAll (.opened c.removal d) v m (command.edits (.opened c.removal d))).1 := by
  have halike := alike_startStore hread
  rw [← edits_eq halike command]
  exact StoreOp.alike_runAll halike (synchronize_notMem_edits hns _) ..

theorem session?_editedStore {target : String} {level? : Option UInt8}
    {connections? : Option UInt32}
    (hreact : (session target level? connections?).react (startStore c files) c.vault = .ok r) :
    (editedStore c files (.session target level? connections?)).session? target =
      some ((((startStore c files).session? target).getD {}).replace level? connections?) :=
  ((startStore c files).session?_setSession target _).trans
    (Session.ofNode?_toNode (session_of_react hreact).1)

theorem connection?_editedStore (c : Config) (files : FileTree) (target address : String)
    (header? data? : Option Digest) :
    (editedStore c files (.connection target address header? data?)).connection? target address =
      some (((startStore c files).connection? target address |>.getD {}).withDigests
        header? data?) :=
  (startStore c files).connection?_setConnection target address _

/-- Once it is written, what a store holds after the operations of a command is what is read from
the document. -/
theorem alike_opened_of_written (hns : command.subject? = some ns)
    (hread : files.readDocument c.document = .ok d)
    (hkept : ∀ k, k ≠ ns.key → d'.get? k = d.get? k)
    (hwritten : d'.get? ns.key = (editedStore c files command).cache.node? ns) :
    Store.Alike Likeness.encoded
      { cache := (editedStore c files command).cache.settle, removal := c.removal }
      (.opened c.removal d') := by
  refine ⟨Cache.alike_of_at (fun ns' => ?_) fun ns' => ?_, rfl⟩
  · have htidy := ((sound_editedStore c files hns).tidy).at ns'
    refine Cache.AlikeAt.congr ?_ (Cache.agree_settle ns' _) (.refl ns' _)
    by_cases hne : ns' = ns
    · subst hne
      exact htidy.ofDocument hwritten
    · -- a namespace that the command is not about is as it was read
      obtain ⟨hvalue, -⟩ := agree_editedStore c files hns hne
      have hkey : ns'.key ≠ ns.key := fun hkey => hne (Namespace.key_injective hkey)
      have hdocument := Cache.agree_ofDocument_of_get? (hkept _ hkey).symm
      exact ((alike_startStore hread).cache.at ns').congr hvalue hdocument
  · exact (Cache.isModified_settle ns' _).trans (Cache.isModified_ofDocument ns' d').symm

end

theorem Runs.carriesOut (h : Runs c files command ending files') (hdone : ending = .done)
    (hns : command.subject? = some ns) (hread : files.readDocument c.document = .ok d) :
    ∃ d', files'.readDocument c.document = .ok d' ∧ command.CarriesOut c.removal ns d d' := by
  cases h with
  | refused | uncommitted => cases hdone
  | shown hreact hchanged =>
    rw [changed?_of_react hreact (c.medium files), hns] at hchanged
    cases hchanged
  | @committed r s v y hreact hchanged hsync hok =>
    rw [changed?_of_react hreact (c.medium files), hns] at hchanged
    obtain rfl : editedStore c files command = s := congrArg Prod.fst (Option.some.inj hchanged)
    have hsound := sound_editedStore c files hns
    have hmark := isModified_editedStore hreact hns
    obtain ⟨d', hread', hflushed⟩ := hsync.read_of_ok hsound.covered hsound.fits hread hok
    have hkept : ∀ k, k ≠ ns.key → d'.get? k = d.get? k := fun k hk =>
      hflushed.kept k fun ns' hns' => (hmark ns').1 hns' ▸ hk
    have hwritten := hflushed.written ns ((hmark ns).2 rfl)
    have hback := alike_opened_of_written hns hread hkept hwritten
    have hstart := alike_startStore hread
    have hthere := (Medium.read_of_path? hsync.path?).symm.trans hread'
    refine ⟨d', hthere, hkept, fun v m => ?_, ?_, ?_, ?_⟩
    · exact hwritten.trans ((alike_editedStore hns hread v m).cache.at ns).node?_eq
    · rintro rfl
      cases hns
      exact hwritten
    · rintro target level? connections? rfl
      rw [← hback.session?_eq target, ← hstart.session?_eq target, Store.session?_settle]
      exact session?_editedStore hreact
    · rintro target address header? data? rfl
      rw [← hback.connection?_eq target address, ← hstart.connection?_eq target address,
        Store.connection?_settle]
      exact connection?_editedStore c files target address header? data?

end Command

/-- A run of a command that changes a namespace, and that succeeds, has carried the command out on
the document. -/
theorem run_carriesOut {files : FileTree} {words : List String} {i : Invocation} {c : Config}
    {d : Document} {ns : Namespace} (hi : Invocation.ofWords? words = some i)
    (hc : Config.loadOrDefault files i.config = .ok c)
    (hread : files.readDocument c.document = .ok d) (hns : i.command.subject? = some ns)
    (hdone : (run files words).ending = .done) :
    ∃ d', (run files words).files.readDocument c.document = .ok d' ∧
      i.command.CarriesOut c.removal ns d d' := by
  rw [run_eq hi hc] at hdone ⊢
  exact (i.command.runs c files).carriesOut hdone hns hread

/-- A document with a target, and with a key of someone else. -/
def parametersDocument : Document :=
  .ofList [("Other", .scalar "x"), (Namespace.targets.key, .ofList [("a", .ofList [])])]

/-- The document is where the default configuration has it. -/
def parametersFiles : FileTree :=
  (((({} : FileTree).put ⟨true, ["var"]⟩ .folder).put ⟨true, ["var", "lib"]⟩ .folder).put
    ⟨true, ["var", "lib", "iscsi-initiator"]⟩ .folder).put
    ⟨true, ["var", "lib", "iscsi-initiator", "com.github.iscsi-initiator.json"]⟩
    (.file (Document.pretty parametersDocument).toUTF8)

theorem run_carriesOut_parametersFiles :
    (run parametersFiles ["session", "a", "--max-connections", "4"]).ending = .done ∧
    ∃ d', (run parametersFiles ["session", "a", "--max-connections", "4"]).files.readDocument
        ({} : Config).document = .ok d' ∧
      d'.get? "Other" = some (.scalar "x") ∧
      (Store.opened .compat d').session? "a" = some ⟨0, 4, 0⟩ := by
  have hi : Invocation.ofWords? ["session", "a", "--max-connections", "4"] =
      some ⟨Invocation.defaultConfig, .session "a" none (some 4)⟩ := by decide +kernel
  have hc : Config.loadOrDefault parametersFiles Invocation.defaultConfig = .ok {} := by
    decide +kernel
  have hread : parametersFiles.readDocument ({} : Config).document = .ok parametersDocument :=
    FileTree.readDocument_of_find? (by decide +kernel) rfl
  have hwritable : (({} : Config).medium parametersFiles).Writable := fun _ => rfl
  have hreact : ((Command.session "a" none (some 4)).react
      (Command.startStore {} parametersFiles) ({} : Config).vault).isOk = true := by decide +kernel
  have hdone : (run parametersFiles ["session", "a", "--max-connections", "4"]).ending = .done := by
    rw [run_eq hi hc]
    exact (Command.runs {} parametersFiles _).done_of_writable hread hwritable hreact
  obtain ⟨d', hread', hcarries⟩ := run_carriesOut hi hc hread rfl hdone
  have hother : parametersDocument.get? "Other" = some (.scalar "x") := by decide +kernel
  have hsession : (((Store.opened .compat parametersDocument).session? "a").getD {}).replace none
      (some 4) = ⟨0, 4, 0⟩ := by decide +kernel
  refine ⟨hdone, d', hread', (hcarries.kept "Other" (by decide)).trans hother, ?_⟩
  rw [← hsession]
  exact hcarries.session "a" none (some 4) rfl

end InitiatorStore
