import InitiatorStore.Proofs.Cache
import InitiatorStore.Proofs.Prefs.Commit
import InitiatorStore.Proofs.Store.Depth
import InitiatorStore.Store.Synchronize

/-!
# What a synchronization does

A synchronization stages the values of the modified namespaces, commits, and reads the other
namespaces again.  It fails while staging, or in the commit, or it succeeds (`Store.Synchronizes`).
The three steps are described one by one; what holds of whole runs of stores is derived from these
descriptions elsewhere.
-/

namespace InitiatorStore

namespace Store

variable {c : Cache} {p p' : Prefs} {m : Medium} {nss : List Namespace} {notices : List Notice}

/-! ### Staging -/

theorem stage_cons_of_refused {ns : Namespace} (h : p.refusals.set.contains ns.key = true)
    (c : Cache) (rest : List Namespace) : stage c p (ns :: rest) =
      (.error (.backend "write refused"), p.record (.set ns.key), [.writing ns]) := by
  have hset : p.set ns.key (c.node? ns) =
      (.error (.backend "write refused"), p.record (.set ns.key)) := if_pos h
  rw [stage, hset]

theorem stage_cons {ns : Namespace} (h : p.refusals.set.contains ns.key = false)
    (c : Cache) (rest : List Namespace) {staged : Prefs}
    (hp : staged = { p.record (.set ns.key) with
      staged := p.staged.insert ns.key (c.node? ns) }) :
    stage c p (ns :: rest) = ((stage c staged rest).1, (stage c staged rest).2.1,
      .writing ns :: (stage c staged rest).2.2) := by
  have hset : p.set ns.key (c.node? ns) = (.ok (), staged) :=
    hp ▸ if_neg (Bool.eq_false_iff.1 h)
  rw [stage, hset]

/-- Every namespace on the list is staged by a call that is not refused, and nothing else is. -/
structure StagesAll (c : Cache) (nss : List Namespace) (p p' : Prefs) : Prop where
  refusals : p'.refusals = p.refusals
  calls : p'.calls = (nss.map fun ns => PrefsCall.set ns.key).reverse ++ p.calls
  allowed : ∀ ns ∈ nss, p.refusals.set.contains ns.key = false
  staged : ∀ ns ∈ nss, p'.staged.get? ns.key = some (c.node? ns)
  others : ∀ k, (∀ ns ∈ nss, k ≠ ns.key) → p'.staged.get? k = p.staged.get? k

theorem stagesAll_of_ok (h : (stage c p nss).1 = .ok ()) :
    StagesAll c nss p (stage c p nss).2.1 := by
  induction nss generalizing p with
  | nil => exact ⟨rfl, rfl, nofun, nofun, fun _ _ => rfl⟩
  | cons ns rest ih =>
    cases hrefused : p.refusals.set.contains ns.key with
    | true =>
      rw [stage_cons_of_refused hrefused] at h
      cases h
    | false =>
      rw [stage_cons hrefused c rest rfl] at h ⊢
      obtain ⟨hrefusals, hcalls, hallowed, hstaged, hother⟩ := ih h
      refine ⟨hrefusals, ?_, ?_, ?_, ?_⟩
      · rw [hcalls]
        simp [Prefs.record]
      · intro ns' hns'
        rcases List.mem_cons.1 hns' with rfl | hns'
        · exact hrefused
        · exact hallowed ns' hns'
      · intro ns' hns'
        -- the same namespace may come again, and what is staged last is what counts
        by_cases hmem : ns' ∈ rest
        · exact hstaged ns' hmem
        · obtain rfl : ns' = ns := (List.mem_cons.1 hns').resolve_right hmem
          rw [hother ns'.key fun ns₁ h₁ heq => hmem (Namespace.key_injective heq ▸ h₁)]
          simp
      · intro k hk
        rw [hother k fun ns₁ h₁ => hk ns₁ (List.mem_cons_of_mem _ h₁)]
        simp [hk ns (List.mem_cons_self ..)]

/-- Staging that fails ends with a call that is refused, after calls that are not. -/
theorem stage_error {e : PrefsError} (h : (stage c p nss).1 = .error e) :
    (stage c p nss).2.1.refusals = p.refusals ∧
      ∃ before ns after, nss = before ++ ns :: after ∧
        (stage c p nss).2.1.calls =
          .set ns.key :: ((before.map fun ns => PrefsCall.set ns.key).reverse ++ p.calls) ∧
        (∀ b ∈ before, p.refusals.set.contains b.key = false) ∧
        p.refusals.set.contains ns.key = true := by
  induction nss generalizing p with
  | nil => cases h
  | cons ns rest ih =>
    cases hrefused : p.refusals.set.contains ns.key with
    | true =>
      rw [stage_cons_of_refused hrefused]
      exact ⟨rfl, [], ns, rest, rfl, rfl, nofun, hrefused⟩
    | false =>
      rw [stage_cons hrefused c rest rfl] at h ⊢
      obtain ⟨hrefusals, before, ns', after, rfl, hcalls, hset, hlast⟩ := ih h
      refine ⟨hrefusals, ns :: before, ns', after, rfl, ?_, ?_, hlast⟩
      · rw [hcalls]
        simp [Prefs.record]
      · intro b hb
        rcases List.mem_cons.1 hb with rfl | hb
        · exact hrefused
        · exact hset b hb

/-- Staging adds nothing but keys of the namespaces on the list. -/
theorem staged_stage {k : String} {v : Option Node}
    (h : (stage c p nss).2.1.staged.get? k = some v) :
    p.staged.get? k = some v ∨ ∃ ns ∈ nss, k = ns.key := by
  induction nss generalizing p with
  | nil => exact .inl h
  | cons ns rest ih =>
    cases hrefused : p.refusals.set.contains ns.key with
    | true =>
      rw [stage_cons_of_refused hrefused] at h
      exact .inl h
    | false =>
      rw [stage_cons hrefused c rest rfl] at h
      rcases ih h with h | ⟨ns', hns', hk⟩
      · by_cases hk : k = ns.key
        · exact .inr ⟨ns, List.mem_cons_self .., hk⟩
        · exact .inl (by simpa [Prefs.record, hk] using h)
      · exact .inr ⟨ns', List.mem_cons_of_mem _ hns', hk⟩

/-! ### Reading again -/

theorem reload_eq (m : Medium) (ns : Namespace) (c : Cache) (p : Prefs) :
    (reload m ns c p).1 = (match p.copy m ns.key with
      | .ok v => c.load ns v
      | .error _ => c) ∧ (reload m ns c p).2.1 = p.record (.copy ns.key) := by
  rw [reload]
  rcases p.copy m ns.key with _ | _ | _ <;> exact ⟨rfl, rfl⟩

theorem reloadAll_cons (m : Medium) (c : Cache) (p : Prefs) (ns : Namespace)
    (rest : List Namespace) :
    (reloadAll m c p (ns :: rest)).1 =
        (reloadAll m (reload m ns c p).1 (p.record (.copy ns.key)) rest).1 ∧
      (reloadAll m c p (ns :: rest)).2.1 =
        (reloadAll m (reload m ns c p).1 (p.record (.copy ns.key)) rest).2.1 := by
  rw [← (reload_eq m ns c p).2, reloadAll]
  exact ⟨rfl, rfl⟩

/-- Reading again changes nothing of the preference store but the record of calls. -/
theorem prefs_reloadAll (m : Medium) (c : Cache) (p : Prefs) (nss : List Namespace) :
    (reloadAll m c p nss).2.1.staged = p.staged ∧
      (reloadAll m c p nss).2.1.refusals = p.refusals := by
  induction nss generalizing c p with
  | nil => exact ⟨rfl, rfl⟩
  | cons ns rest ih =>
    rw [(reloadAll_cons m c p ns rest).2]
    exact ih (reload m ns c p).1 (p.record (.copy ns.key))

@[simp] theorem isModified_reloadAll (m : Medium) (c : Cache) (p : Prefs) (nss : List Namespace)
    (ns : Namespace) : (reloadAll m c p nss).1.isModified ns = c.isModified ns := by
  induction nss generalizing c p with
  | nil => rfl
  | cons ns' rest ih =>
    rw [(reloadAll_cons m c p ns' rest).1, ih, (reload_eq m ns' c p).1]
    split
    · exact Cache.isModified_load ..
    · rfl

/-- A namespace that is not on the list keeps its value, and so does one whose key cannot be copied;
any other has the value of its key. -/
theorem agree_reloadAll (m : Medium) (c : Cache) (p : Prefs) (nss : List Namespace)
    (ns : Namespace) :
    (ns ∉ nss → Cache.Agree ns (reloadAll m c p nss).1 c) ∧
      (∀ v, ns ∈ nss → p.copy m ns.key = .ok v →
        Cache.Agree ns (reloadAll m c p nss).1 (c.load ns v)) ∧
      (∀ e, p.copy m ns.key = .error e → Cache.Agree ns (reloadAll m c p nss).1 c) := by
  induction nss generalizing c p with
  | nil => exact ⟨fun _ => .refl ns c, nofun, fun _ _ => .refl ns c⟩
  | cons ns' rest ih =>
    have hcache := (reload_eq m ns' c p).1
    have hcopy : (p.record (.copy ns'.key)).copy m ns.key = p.copy m ns.key :=
      Prefs.copy_congr rfl rfl m ns.key
    obtain ⟨hnot, hok, herr⟩ := ih (reload m ns' c p).1 (p.record (.copy ns'.key))
    -- a copy is recorded, and the record has no part in what is copied later
    rw [hcopy] at hok herr
    rw [(reloadAll_cons m c p ns' rest).1]
    have hfirst : ns ≠ ns' → Cache.Agree ns (reload m ns' c p).1 c := by
      intro hne
      rw [hcache]
      split
      · exact Cache.agree_load_of_ne hne c _
      · exact .refl ns c
    refine ⟨fun hmem => ?_, fun v hmem hv => ?_, fun e he => ?_⟩
    · rw [List.mem_cons, not_or] at hmem
      exact (hnot hmem.2).trans (hfirst hmem.1)
    · by_cases hrest : ns ∈ rest
      · exact (hok v hrest hv).trans (Cache.agree_load ns _ c v)
      · obtain rfl : ns = ns' := (List.mem_cons.1 hmem).resolve_right hrest
        refine (hnot hrest).trans ?_
        rw [hcache, hv]
        exact .refl ns _
    · by_cases hns : ns = ns'
      · subst hns
        refine (herr e he).trans ?_
        rw [hcache, he]
        exact .refl ns c
      · exact (herr e he).trans (hfirst hns)

/-- Where the document cannot be read, reading again changes nothing that is cached. -/
theorem cache_reloadAll_of_read_eq_error {e : PrefsError} (hread : m.read = .error e)
    (hstaged : p.staged = ∅) (c : Cache) (nss : List Namespace) : (reloadAll m c p nss).1 = c := by
  induction nss generalizing p with
  | nil => rfl
  | cons ns rest ih =>
    have hk : p.staged.get? ns.key = none := by rw [hstaged]; rfl
    obtain ⟨e', hcopy, -⟩ := Prefs.exists_copy_eq_error hread hk
    have hreload : (reload m ns c p).1 = c := by rw [(reload_eq m ns c p).1, hcopy]
    rw [(reloadAll_cons m c p ns rest).1, hreload]
    exact ih (p := p.record (.copy ns.key)) hstaged

/-! ### Synchronizing -/

/-- The namespaces that a synchronization reads again. -/
def unmodified (c : Cache) : List Namespace :=
  Namespace.all.filter fun ns => !c.modified.contains ns

theorem mem_unmodified {ns : Namespace} : ns ∈ unmodified c ↔ c.isModified ns = false := by
  rw [unmodified, List.mem_filter, and_iff_right (Namespace.mem_all ns), Bool.not_eq_true',
    ← Bool.not_eq_true, List.contains_iff_mem, Cache.mem_modified, Bool.not_eq_true]

/-- What a synchronization comes to: it fails while staging, or its commit fails, or it is done. -/
inductive Synchronizes (s : Store) (m : Medium) : Sync → Prop
  | unstaged {e : PrefsError} {p : Prefs} {notices : List Notice} :
      stage s.cache s.prefs s.cache.modified = (.error e, p, notices) →
      Synchronizes s m ⟨.error e, { s with prefs := p }, m, notices⟩
  | uncommitted {e : PrefsError} {p : Prefs} {c : Commit} {staging notices : List Notice} :
      stage s.cache s.prefs s.cache.modified = (.ok (), p, staging) →
      Prefs.Commits p m c → c.result = .error e →
      Synchronizes s m ⟨.error e, { s with prefs := c.prefs }, c.medium, notices⟩
  | done {p : Prefs} {c : Commit} {staging notices : List Notice} :
      stage s.cache s.prefs s.cache.modified = (.ok (), p, staging) →
      Prefs.Commits p m c → c.result = .ok () →
      Synchronizes s m
        ⟨.ok (), { s with
          cache := (reloadAll c.medium s.cache c.prefs (unmodified s.cache)).1.settle
          prefs := (reloadAll c.medium s.cache c.prefs (unmodified s.cache)).2.1 },
          c.medium, notices⟩

theorem synchronizes (s : Store) (m : Medium) : Synchronizes s m (s.synchronize m) := by
  unfold synchronize
  simp only
  split
  · next hstage => exact .unstaged hstage
  · next p _ hstage =>
    split
    · next hresult => exact .uncommitted hstage (p.commits m) hresult
    · next hresult => exact .done hstage (p.commits m) hresult

/-- Every staged key is the key of a namespace that is still marked as changed. -/
def Covered (s : Store) : Prop :=
  ∀ k v, s.prefs.staged.get? k = some v → ∃ ns, k = ns.key ∧ s.isModified ns = true

/-- What is cached is no deeper than what the medium gives back. -/
def Fits (s : Store) (m : Medium) : Prop := m.path?.isSome → s.cache.Bounded (Node.maxDepth - 1)

/-- A document after the values of the namespaces that a store has changed are written to it. -/
structure Flushed (s : Store) (d d' : Document) : Prop where
  written : ∀ ns, s.isModified ns = true → d'.get? ns.key = s.cache.node? ns
  kept : ∀ k, (∀ ns, s.isModified ns = true → k ≠ ns.key) → d'.get? k = d.get? k

variable {s : Store} {y : Sync} {d : Document} {e : PrefsError}

/-- Staging adds keys of changed namespaces only. -/
theorem Covered.of_staged_stage (hs : s.Covered) {k : String} {v : Option Node}
    (h : (stage s.cache s.prefs s.cache.modified).2.1.staged.get? k = some v) :
    ∃ ns, k = ns.key ∧ s.isModified ns = true := by
  rcases staged_stage h with h | ⟨ns, hns, hk⟩
  · exact hs k v h
  · exact ⟨ns, hk, Cache.mem_modified.1 hns⟩

/-- What is staged when all is staged: the values of the changed namespaces. -/
theorem Covered.get?_staged_stage (hs : s.Covered)
    (h : (stage s.cache s.prefs s.cache.modified).1 = .ok ()) :
    (∀ ns, s.isModified ns = true →
      (stage s.cache s.prefs s.cache.modified).2.1.staged.get? ns.key = some (s.cache.node? ns)) ∧
    ∀ k, (∀ ns, s.isModified ns = true → k ≠ ns.key) →
      (stage s.cache s.prefs s.cache.modified).2.1.staged.get? k = none := by
  refine ⟨fun ns hns => (stagesAll_of_ok h).staged ns (Cache.mem_modified.2 hns), fun k hk => ?_⟩
  rw [Option.eq_none_iff_forall_ne_some]
  intro v hv
  obtain ⟨ns, hkey, hns⟩ := hs.of_staged_stage hv
  exact hk ns hns hkey

/-- What is staged when all is staged, applied to a document. -/
theorem Covered.flushed_applyStaged (hs : s.Covered)
    (h : (stage s.cache s.prefs s.cache.modified).1 = .ok ()) (d : Document) :
    s.Flushed d (applyStaged (stage s.cache s.prefs s.cache.modified).2.1.staged d) := by
  obtain ⟨hmodified, hother⟩ := hs.get?_staged_stage h
  constructor
  · intro ns hns
    rw [get?_applyStaged, hmodified ns hns]
    rfl
  · intro k hk
    rw [get?_applyStaged, hother k hk]
    rfl

/-- The document after all that is staged can be read again. -/
theorem Covered.fits_applyStaged (hs : s.Covered) (hfits : s.Fits m) (hread : m.read = .ok d)
    (h : (stage s.cache s.prefs s.cache.modified).1 = .ok ()) :
    m.Fits (applyStaged (stage s.cache s.prefs s.cache.modified).2.1.staged d) := by
  refine Medium.fits_applyStaged (Medium.fits_of_read hread) fun k n hk hfile => ?_
  obtain ⟨ns, rfl, hns⟩ := hs.of_staged_stage hk
  have hnode : s.cache.node? ns = some n :=
    Option.some.inj (((hs.get?_staged_stage h).1 ns hns).symm.trans hk)
  exact Nat.lt_of_le_of_lt (hfits hfile ns n hnode) (by decide)

namespace Synchronizes

theorem removal (h : Synchronizes s m y) : y.store.removal = s.removal := by
  cases h <;> rfl

theorem path? (h : Synchronizes s m y) : y.medium.path? = m.path? := by
  cases h with
  | unstaged => rfl
  | uncommitted _ hcommit | done _ hcommit => exact hcommit.path?

theorem closed (h : Synchronizes s m y) (hm : m.files.Closed) : y.medium.files.Closed := by
  cases h with
  | unstaged => exact hm
  | uncommitted _ hcommit | done _ hcommit => exact hcommit.closed hm

theorem grounded (h : Synchronizes s m y) (hg : m.Grounded) : y.medium.Grounded := by
  cases h with
  | unstaged => exact hg
  | uncommitted _ hcommit | done _ hcommit => exact hcommit.grounded hg

/-! A failure leaves the caches and what is read. -/

theorem cache_of_error (h : Synchronizes s m y) (herr : y.result = .error e) :
    y.store.cache = s.cache := by
  cases h with
  | unstaged | uncommitted => rfl
  | done => cases herr

theorem read_of_error (h : Synchronizes s m y) (hclosed : m.files.Closed) (hg : m.Grounded)
    (herr : y.result = .error e) : y.medium.read = m.read := by
  cases h with
  | unstaged => rfl
  | uncommitted hstage hcommit hresult => exact hcommit.read_of_error hclosed hg hresult
  | done => cases herr

theorem find?_of_error (h : Synchronizes s m y) (hclosed : m.files.Closed) {path : String}
    (hpath : m.path? = some path)
    (hthere : m.files.find? path ≠ none ∨ m.files.Grounded path) (herr : y.result = .error e) :
    y.medium.files.find? path = m.files.find? path := by
  cases h with
  | unstaged => rfl
  | uncommitted hstage hcommit hresult => exact hcommit.find?_of_error hclosed hpath hthere hresult
  | done => cases herr

/-- The calls of a synchronization that fails are the settings of some changed namespaces, none of
them refused, and then one more call, which fails. -/
theorem calls_of_error (h : Synchronizes s m y) (herr : y.result = .error e) :
    ∃ (before : List Namespace) (last : PrefsCall), y.store.prefs.calls =
        last :: ((before.map fun ns => PrefsCall.set ns.key).reverse ++ s.prefs.calls) ∧
      (∀ ns ∈ before, s.prefs.refusals.set.contains ns.key = false) ∧
      (last = .commit ∧ before = s.cache.modified ∨
        ∃ ns after, last = .set ns.key ∧ s.cache.modified = before ++ ns :: after ∧
          s.prefs.refusals.set.contains ns.key = true) := by
  cases h with
  | unstaged hstage =>
    obtain ⟨-, before, ns, after, hmodified, hcalls, hset, hlast⟩ :=
      stage_error (congrArg Prod.fst hstage)
    rw [hstage] at hcalls
    exact ⟨before, .set ns.key, hcalls, hset, .inr ⟨ns, after, rfl, hmodified, hlast⟩⟩
  | uncommitted hstage hcommit =>
    have hall := stagesAll_of_ok (congrArg Prod.fst hstage)
    rw [hstage] at hall
    exact ⟨s.cache.modified, .commit, hcommit.calls.trans (congrArg _ hall.calls), hall.allowed,
      .inl ⟨rfl, rfl⟩⟩
  | done => cases herr

/-! A success empties the stage, takes all marks off and commits what was cached. -/

theorem staged_of_ok (h : Synchronizes s m y) (hok : y.result = .ok ()) :
    y.store.prefs.staged = ∅ := by
  cases h with
  | unstaged | uncommitted => cases hok
  | done _ hcommit hresult =>
    exact (prefs_reloadAll ..).1.trans (hcommit.staged_of_ok hresult)

theorem refusals_of_ok (h : Synchronizes s m y) (hok : y.result = .ok ()) :
    y.store.prefs.refusals = s.prefs.refusals := by
  cases h with
  | unstaged | uncommitted => cases hok
  | done hstage hcommit =>
    have hall := stagesAll_of_ok (congrArg Prod.fst hstage)
    rw [hstage] at hall
    exact ((prefs_reloadAll ..).2.trans hcommit.refusals).trans hall.refusals

/-- On a medium that can be read and written a synchronization succeeds, if no call is refused. -/
theorem ok_of_writable (h : Synchronizes s m y) (hallowed : s.prefs.refusals = {})
    (hread : m.read = .ok d) (hm : m.Writable) : y.result = .ok () := by
  cases h with
  | unstaged hstage =>
    obtain ⟨-, _, ns, _, -, -, -, hrefused⟩ := stage_error (congrArg Prod.fst hstage)
    rw [hallowed] at hrefused
    cases hrefused
  | @uncommitted _ p _ _ _ hstage hcommit hresult =>
    have hall := stagesAll_of_ok (congrArg Prod.fst hstage)
    rw [hstage] at hall
    have hcommits : p.refusals.commit = false := by rw [hall.refusals, hallowed]
    cases hresult.symm.trans (hcommit.ok_of_writable hcommits hread hm)
  | done => rfl

theorem isModified_of_ok (h : Synchronizes s m y) (hok : y.result = .ok ()) (ns : Namespace) :
    y.store.isModified ns = false := by
  cases h with
  | unstaged | uncommitted => cases hok
  | done => exact Cache.isModified_settle ns _

/-- A namespace that was changed keeps its value. -/
theorem agree_of_ok (h : Synchronizes s m y) (hok : y.result = .ok ()) {ns : Namespace}
    (hns : s.isModified ns = true) : Cache.Agree ns y.store.cache s.cache := by
  cases h with
  | unstaged | uncommitted => cases hok
  | @done p c =>
    refine (Cache.agree_settle ns _).trans ?_
    refine (agree_reloadAll c.medium s.cache c.prefs (unmodified s.cache) ns).1 fun hmem => ?_
    rw [mem_unmodified] at hmem
    cases hmem.symm.trans hns

/-- A namespace that was not changed has the value that a copy of its key gives, or its own where
there is no copy to be had. -/
theorem agree_copy_of_ok (h : Synchronizes s m y) (hok : y.result = .ok ()) {ns : Namespace}
    (hns : s.isModified ns = false) :
    (∀ v, y.store.prefs.copy y.medium ns.key = .ok v →
      Cache.Agree ns y.store.cache (s.cache.load ns v)) ∧
    ∀ e, y.store.prefs.copy y.medium ns.key = .error e →
      Cache.Agree ns y.store.cache s.cache := by
  cases h with
  | unstaged | uncommitted => cases hok
  | @done p c =>
    obtain ⟨hstaged, hrefusals⟩ :=
      prefs_reloadAll c.medium s.cache c.prefs (unmodified s.cache)
    obtain ⟨-, hload, hkeep⟩ :=
      agree_reloadAll c.medium s.cache c.prefs (unmodified s.cache) ns
    have hcopy := Prefs.copy_congr hstaged hrefusals c.medium ns.key
    exact ⟨fun v hv => (Cache.agree_settle ns _).trans
        (hload v (mem_unmodified.2 hns) (hcopy.symm.trans hv)),
      fun e he => (Cache.agree_settle ns _).trans (hkeep e (hcopy.symm.trans he))⟩

/-- The document after a success is the one before, with what was cached of the changed
namespaces. -/
theorem read_of_ok (h : Synchronizes s m y) (hs : s.Covered) (hfits : s.Fits m)
    (hread : m.read = .ok d) (hok : y.result = .ok ()) :
    ∃ d', y.medium.read = .ok d' ∧ s.Flushed d d' := by
  cases h with
  | unstaged | uncommitted => cases hok
  | @done p c _ _ hstage hcommit hresult =>
    have hflushed := hs.flushed_applyStaged (congrArg Prod.fst hstage) d
    have hdepth := hs.fits_applyStaged hfits hread (congrArg Prod.fst hstage)
    rw [hstage] at hflushed hdepth
    exact ⟨applyStaged p.staged d, hcommit.read_of_ok hread hdepth hresult, hflushed⟩

/-- A success that had something to write has read the document, and leaves it at a grounded
path. -/
theorem exists_read_of_ok (h : Synchronizes s m y) (hclosed : m.files.Closed)
    (hok : y.result = .ok ()) {ns : Namespace} (hns : s.isModified ns = true) :
    (∃ d, m.read = .ok d) ∧ y.medium.Grounded := by
  cases h with
  | unstaged | uncommitted => cases hok
  | @done p c _ _ hstage hcommit hresult =>
    have hall := stagesAll_of_ok (congrArg Prod.fst hstage)
    rw [hstage] at hall
    have hstaged := hall.staged ns (Cache.mem_modified.2 hns)
    exact ⟨hcommit.exists_read hstaged hresult, hcommit.grounded_of_ok hclosed hstaged hresult⟩

/-- A synchronization that has something to write to a document that cannot be read fails and leaves
the medium alone. -/
theorem of_read_eq_error (h : Synchronizes s m y) (hread : m.read = .error e) {ns : Namespace}
    (hns : s.isModified ns = true) :
    y.medium = m ∧ ∃ e', y.result = .error e' ∧ (s.prefs.refusals = {} → e' = e) := by
  have hcommits : ∀ {p : Prefs} {c : Commit} {notices : List Notice},
      stage s.cache s.prefs s.cache.modified = (.ok (), p, notices) → Prefs.Commits p m c →
      c.medium = m ∧ ∃ e', c.result = .error e' ∧ (s.prefs.refusals = {} → e' = e) := by
    intro p c notices hstage hcommit
    have hall := stagesAll_of_ok (congrArg Prod.fst hstage)
    rw [hstage] at hall
    have hstaged := hall.staged ns (Cache.mem_modified.2 hns)
    have hne : p.staged ≠ ∅ := fun hempty => by
      rw [hempty] at hstaged
      cases hstaged
    obtain ⟨hmedium, -, hfails⟩ := hcommit.of_read_eq_error hread
    obtain ⟨e', hresult, hnone⟩ := hfails hne
    exact ⟨hmedium, e', hresult, fun hallowed => hnone (hall.refusals.trans hallowed)⟩
  cases h with
  | unstaged hstage =>
    obtain ⟨-, _, ns', _, -, -, -, hrefused⟩ := stage_error (congrArg Prod.fst hstage)
    refine ⟨rfl, _, rfl, fun hallowed => ?_⟩
    rw [hallowed] at hrefused
    cases hrefused
  | uncommitted hstage hcommit hresult =>
    obtain ⟨hmedium, e', hresult', hnone⟩ := hcommits hstage hcommit
    exact ⟨hmedium, e', hresult ▸ hresult', hnone⟩
  | done hstage hcommit hresult =>
    obtain ⟨-, e', hresult', -⟩ := hcommits hstage hcommit
    cases hresult.symm.trans hresult'

/-! In any case a namespace keeps its value, or has the value that is committed. -/

theorem agree_cases (h : Synchronizes s m y) (ns : Namespace) :
    Cache.Agree ns y.store.cache s.cache ∨
      ∃ d, y.medium.read = .ok d ∧
        Cache.Agree ns y.store.cache (s.cache.load ns (d.get? ns.key)) := by
  cases hresult : y.result with
  | error e =>
    rw [h.cache_of_error hresult]
    exact .inl (.refl ns s.cache)
  | ok =>
    cases hns : s.isModified ns with
    | true => exact .inl (h.agree_of_ok hresult hns)
    | false =>
      obtain ⟨hload, hkeep⟩ := h.agree_copy_of_ok hresult hns
      cases hcopy : y.store.prefs.copy y.medium ns.key with
      | error e => exact .inl (hkeep e hcopy)
      | ok v =>
        obtain ⟨d, hread, rfl⟩ := Prefs.copy_eq_ok (h.staged_of_ok hresult) hcopy
        exact .inr ⟨d, hread, hload _ hcopy⟩

/-- The documents in the medium after a synchronization are those that were there, and the one that
was read with what was cached of the changed namespaces. -/
theorem holds (h : Synchronizes s m y) (hs : s.Covered) {d' : Document}
    (hd : y.medium.Holds d') : m.Holds d' ∨ ∃ d, m.read = .ok d ∧ s.Flushed d d' := by
  cases h with
  | unstaged => exact .inl hd
  | uncommitted hstage hcommit | done hstage hcommit =>
    refine (hcommit.holds hd).imp_right ?_
    rintro ⟨d, hread, rfl⟩
    have hflushed := hs.flushed_applyStaged (congrArg Prod.fst hstage) d
    rw [hstage] at hflushed
    exact ⟨d, hread, hflushed⟩

theorem covered (h : Synchronizes s m y) (hs : s.Covered) : y.store.Covered := by
  have hcovered := @Covered.of_staged_stage s hs
  intro k v hk
  cases h with
  | unstaged hstage =>
    rw [hstage] at hcovered
    exact hcovered hk
  | @uncommitted _ p c _ _ hstage hcommit =>
    rw [hstage] at hcovered
    -- the marks are left where they are, so what stays staged stays covered
    have hk : c.prefs.staged.get? k = some v := hk
    rcases hcommit.staged with hkept | hempty
    · exact hcovered (hkept ▸ hk)
    · rw [hempty] at hk
      cases hk
  | @done p c _ _ hstage hcommit hresult =>
    have hempty := (prefs_reloadAll c.medium s.cache c.prefs (unmodified s.cache)).1.trans
      (hcommit.staged_of_ok hresult)
    simp [hempty] at hk

end Synchronizes

end Store

end InitiatorStore
