import InitiatorStore.Proofs.Store.Sound

/-!
# Stores that cannot be told apart

Two stores match when their caches have the same encodings and their preference stores have the same
staged writes and refuse the same calls (`Store.Matches`).  They may differ in the calls that they
have recorded, and in what the encodings do not show.  Stores that match answer every operation
alike, a synchronization included, leave the same vault and the same medium, and match again
(`Store.Matches.run`).
-/

namespace InitiatorStore

/-! ### Preference stores -/

/-- Two preference stores have the same staged writes and refuse the same calls. -/
structure Prefs.Matches (p q : Prefs) : Prop where
  staged : q.staged = p.staged
  refusals : q.refusals = p.refusals

namespace Prefs

variable {p q : Prefs}

theorem Matches.record (h : Matches p q) (call call' : PrefsCall) :
    Matches (p.record call) (q.record call') :=
  ⟨h.staged, h.refusals⟩

theorem Matches.set (h : Matches p q) (k : String) (v : Option Node) :
    (q.set k v).1 = (p.set k v).1 ∧ Matches (p.set k v).2 (q.set k v).2 := by
  have hrefusals : (q.record (.set k)).refusals = (p.record (.set k)).refusals := h.refusals
  have hstaged : (q.record (.set k)).staged = (p.record (.set k)).staged := h.staged
  simp only [Prefs.set, hrefusals]
  split
  · exact ⟨rfl, h.record _ _⟩
  · refine ⟨rfl, ?_, rfl⟩
    simp only [hstaged]

theorem Matches.commit (h : Matches p q) (m : Medium) :
    (q.commit m).result = (p.commit m).result ∧ (q.commit m).medium = (p.commit m).medium ∧
      Matches (p.commit m).prefs (q.commit m).prefs := by
  have hrefusals : (q.record .commit).refusals = (p.record .commit).refusals := h.refusals
  have hstaged : (q.record .commit).staged = (p.record .commit).staged := h.staged
  simp only [Prefs.commit, hrefusals, hstaged]
  split
  · exact ⟨rfl, rfl, h.record _ _⟩
  · split
    · exact ⟨rfl, rfl, h.record _ _⟩
    · split
      · exact ⟨rfl, rfl, h.record _ _⟩
      · split
        · exact ⟨rfl, rfl, rfl, rfl⟩
        · exact ⟨rfl, rfl, rfl, rfl⟩

end Prefs

/-! ### Stores -/

namespace Store

/-- Two stores have caches with the same encodings and preference stores that match. -/
structure Matches (s t : Store) : Prop where
  alike : Alike Likeness.encoded s t
  prefs : Prefs.Matches s.prefs t.prefs

theorem Sound.matches_self {s : Store} {m : Medium} (h : s.Sound m) : s.Matches s :=
  ⟨⟨h.tidy, rfl⟩, rfl, rfl⟩

theorem stage_matches {c d : Cache} (hnode : ∀ ns, d.node? ns = c.node? ns) {p q : Prefs}
    (h : Prefs.Matches p q) (nss : List Namespace) :
    (stage d q nss).1 = (stage c p nss).1 ∧
      Prefs.Matches (stage c p nss).2.1 (stage d q nss).2.1 := by
  induction nss generalizing p q with
  | nil => exact ⟨rfl, h⟩
  | cons ns rest ih =>
    obtain ⟨hresult, hset⟩ := h.set ns.key (c.node? ns)
    rw [stage, stage, hnode ns]
    rcases hp : p.set ns.key (c.node? ns) with ⟨_ | _, p'⟩ <;>
      rcases hq : q.set ns.key (c.node? ns) with ⟨_ | _, q'⟩ <;> rw [hp, hq] at hresult hset
    · exact ⟨hresult, hset⟩
    · cases hresult
    · cases hresult
    · exact ih hset

theorem alike_reloadAll {c d : Cache} (hcache : Cache.Alike Likeness.encoded c d) {p q : Prefs}
    (h : Prefs.Matches p q) (m : Medium) (nss : List Namespace) :
    Cache.Alike Likeness.encoded (reloadAll m c p nss).1 (reloadAll m d q nss).1 := by
  refine Cache.alike_of_at (fun ns => ?_) fun ns => ?_
  · obtain ⟨hnot, hload, hkeep⟩ := agree_reloadAll m c p nss ns
    obtain ⟨hnot', hload', hkeep'⟩ := agree_reloadAll m d q nss ns
    -- a copy is the same for both, and what is loaded from it is alike whatever was there before
    by_cases hns : ns ∈ nss
    · have hcopy := Prefs.copy_congr h.staged h.refusals m ns.key
      cases hv : p.copy m ns.key with
      | ok v =>
        exact (Cache.alikeAt_load ns c d v).congr (hload v hns hv)
          (hload' v hns (hcopy.trans hv))
      | error e => exact (hcache.at ns).congr (hkeep e hv) (hkeep' e (hcopy.trans hv))
    · exact (hcache.at ns).congr (hnot hns) (hnot' hns)
  · rw [isModified_reloadAll, isModified_reloadAll, hcache.isModified_eq]

theorem matches_reloadAll {p q : Prefs} (h : Prefs.Matches p q) (m : Medium) (c d : Cache)
    (nss : List Namespace) :
    Prefs.Matches (reloadAll m c p nss).2.1 (reloadAll m d q nss).2.1 := by
  obtain ⟨hstaged, hrefusals⟩ := prefs_reloadAll m c p nss
  obtain ⟨hstaged', hrefusals'⟩ := prefs_reloadAll m d q nss
  exact ⟨(hstaged'.trans h.staged).trans hstaged.symm,
    (hrefusals'.trans h.refusals).trans hrefusals.symm⟩

variable {s t : Store}

/-- Stores that match synchronize alike. -/
theorem Matches.synchronize (h : Matches s t) (m : Medium) :
    (t.synchronize m).result = (s.synchronize m).result ∧
      (t.synchronize m).medium = (s.synchronize m).medium ∧
      Matches (s.synchronize m).store (t.synchronize m).store := by
  have hcache := h.alike.cache
  obtain ⟨hstaging, hprefs⟩ := stage_matches (fun ns => ((hcache.at ns).node?_eq).symm) h.prefs
    s.cache.modified
  simp only [Store.synchronize, ← hcache.modified_eq]
  rcases hs : stage s.cache s.prefs s.cache.modified with ⟨_ | _, p, _⟩ <;>
    rcases ht : stage t.cache t.prefs s.cache.modified with ⟨_ | _, q, _⟩ <;>
    rw [hs, ht] at hstaging hprefs
  · exact ⟨hstaging, rfl, ⟨hcache, h.alike.removal⟩, hprefs⟩
  · cases hstaging
  · cases hstaging
  · obtain ⟨hresult, hmedium, hcommit⟩ := hprefs.commit m
    simp only [hresult, hmedium]
    split
    · exact ⟨rfl, rfl, ⟨hcache, h.alike.removal⟩, hcommit⟩
    · have hreload := alike_reloadAll hcache hcommit (p.commit m).medium
        (Namespace.all.filter fun ns => !s.cache.modified.contains ns)
      exact ⟨rfl, rfl, ⟨hreload.settle, h.alike.removal⟩, matches_reloadAll hcommit ..⟩

/-- Stores that match answer alike, leave the same vault and the same medium, and match again. -/
theorem Matches.run (h : Matches s t) (op : StoreOp) (v : Vault) (m : Medium) :
    (op.run s v m).answer.Alike (op.run t v m).answer ∧
      (op.run t v m).vault = (op.run s v m).vault ∧
      (op.run t v m).medium = (op.run s v m).medium ∧
      Matches (op.run s v m).store (op.run t v m).store := by
  by_cases hop : op = .synchronize
  · subst hop
    obtain ⟨hresult, hmedium, hstore⟩ := h.synchronize m
    simp only [StoreOp.run_synchronize, hresult]
    exact ⟨.refl _, trivial, hmedium, hstore⟩
  · refine ⟨h.alike.answer hop v m m, (h.alike.vault_eq hop v m m).symm, ?_,
      h.alike.run Likeness.kept_encoded hop v v m m, ?_, ?_⟩
    · rw [StoreOp.medium_run hop, StoreOp.medium_run hop]
    · rw [StoreOp.staged_run hop, StoreOp.staged_run hop, h.prefs.staged]
    · rw [StoreOp.refusals_run hop, StoreOp.refusals_run hop, h.prefs.refusals]

/-! ### After a synchronization -/

variable {m : Medium} {y : Sync}

/-- When a synchronization is done and every namespace that was read again could be copied, each
namespace is like the one that its committed value is read as. -/
theorem Synchronizes.alikeAt_load (h : Synchronizes s m y) (hs : s.Sound m)
    (hclosed : m.files.Closed) (hok : y.result = .ok ())
    (hreload : ∀ ns, s.isModified ns = false →
      ∃ v, y.store.prefs.copy y.medium ns.key = .ok v) :
    ∃ d, y.medium.read = .ok d ∧ ∀ ns (c : Cache),
      Cache.AlikeAt Likeness.encoded ns y.store.cache (c.load ns (d.get? ns.key)) := by
  have hstaged := h.staged_of_ok hok
  obtain ⟨d, hread, hwritten⟩ : ∃ d, y.medium.read = .ok d ∧
      ∀ ns, s.isModified ns = true → d.get? ns.key = s.cache.node? ns := by
    -- without a changed namespace nothing is read for writing, but then the targets are read again
    by_cases hmodified : ∃ ns, s.isModified ns = true
    · obtain ⟨ns, hns⟩ := hmodified
      obtain ⟨⟨d₀, hread₀⟩, -⟩ := h.exists_read_of_ok hclosed hok hns
      obtain ⟨d, hread, hflushed⟩ := h.read_of_ok hs.covered hs.fits hread₀ hok
      exact ⟨d, hread, hflushed.written⟩
    · rw [not_exists] at hmodified
      obtain ⟨v, hv⟩ := hreload .targets (Bool.eq_false_iff.2 (hmodified .targets))
      obtain ⟨d, hread, -⟩ := Prefs.copy_eq_ok hstaged hv
      exact ⟨d, hread, fun ns hns => absurd hns (hmodified ns)⟩
  refine ⟨d, hread, fun ns c => ?_⟩
  cases hns : s.isModified ns with
  | true =>
    have hagree := h.agree_of_ok hok hns
    rw [hwritten ns hns, ← hagree.node?_eq]
    exact (((h.sound hs).tidy.at ns).load_node? c)
  | false =>
    obtain ⟨v, hv⟩ := hreload ns hns
    obtain ⟨d', hread', rfl⟩ := Prefs.copy_eq_ok hstaged hv
    obtain rfl := Except.ok.inj (hread'.symm.trans hread)
    exact (Cache.alikeAt_load ns s.cache c _).congr ((h.agree_copy_of_ok hok hns).1 _ hv)
      (.refl ns _)

/-- A fresh store has nothing to commit, so that its synchronization does not fail. -/
theorem result_fresh (r : Removal) (m : Medium) :
    (({ removal := r } : Store).synchronize m).result = .ok () := rfl

theorem medium_fresh (r : Removal) (m : Medium) :
    (({ removal := r } : Store).synchronize m).medium = m := rfl

/-- A fresh store reads every namespace as it is committed, and changes nothing. -/
theorem synchronize_fresh {r : Removal} {d : Document} {z : Sync} (hread : m.read = .ok d)
    (hz : ({ removal := r } : Store).synchronize m = z) :
    z.result = .ok () ∧ z.medium = m ∧
      ∀ ns, Cache.Agree ns z.store.cache (Cache.load {} ns (d.get? ns.key)) := by
  have hok : z.result = .ok () := hz ▸ result_fresh r m
  have hmedium : z.medium = m := hz ▸ medium_fresh r m
  have hsync : Synchronizes { removal := r } m z := hz ▸ synchronizes _ m
  refine ⟨hok, hmedium, fun ns => ?_⟩
  have hns : ({ removal := r } : Store).isModified ns = false := by cases ns <;> rfl
  have hrefusals : z.store.prefs.refusals = {} := hsync.refusals_of_ok hok
  -- nothing is staged and no key is refused, so what is copied is what is committed
  have hcopy : z.store.prefs.copy z.medium ns.key = .ok (d.get? ns.key) := by
    rw [Prefs.copy_of_staged_eq_empty (hsync.staged_of_ok hok) (by rw [hrefusals]; rfl), hmedium,
      hread]
    rfl
  exact (hsync.agree_copy_of_ok hok hns).1 _ hcopy

/-- A fresh store on a document that cannot be read stays as empty as it is. -/
theorem cache_fresh_of_read_eq_error {e : PrefsError} (hread : m.read = .error e) (r : Removal) :
    (({ removal := r } : Store).synchronize m).store.cache = {} := by
  have hsync := synchronizes { removal := r } m
  have hok := result_fresh r m
  generalize ({ removal := r } : Store).synchronize m = y at hsync hok ⊢
  cases hsync with
  | unstaged | uncommitted => cases hok
  | done hstage hcommit hresult =>
    have hreload := cache_reloadAll_of_read_eq_error
      ((hcommit.of_read_eq_error hread).1 ▸ hread) (hcommit.staged_of_ok hresult) {}
      (unmodified ({ removal := r } : Store).cache)
    exact congrArg Cache.settle hreload

/-- So does a fresh store on an empty document. -/
theorem cache_fresh_of_read_eq_empty (hread : m.read = .ok ∅) (r : Removal) :
    (({ removal := r } : Store).synchronize m).store.cache = {} := by
  have hsync := synchronizes { removal := r } m
  obtain ⟨hok, -, hagree⟩ := synchronize_fresh (r := r) hread rfl
  refine Cache.eq_of_agree (fun ns => (hagree ns).trans ?_) fun ns => ?_
  · cases ns <;> rfl
  · refine (hsync.isModified_of_ok hok ns).trans ?_
    cases ns <;> rfl

/-- A store that has been synchronized matches a fresh one that is synchronized after it, once that
one refuses the same calls. -/
theorem Synchronizes.matches_fresh (h : Synchronizes s m y) (hs : s.Sound m)
    (hclosed : m.files.Closed) (hok : y.result = .ok ())
    (hreload : ∀ ns, s.isModified ns = false →
      ∃ v, y.store.prefs.copy y.medium ns.key = .ok v) {z : Sync}
    (hz : ({ removal := y.store.removal } : Store).synchronize y.medium = z) :
    z.result = .ok () ∧ z.medium = y.medium ∧
      y.store.Matches { z.store with
        prefs := { z.store.prefs with refusals := y.store.prefs.refusals } } := by
  have hfresh : Synchronizes { removal := y.store.removal } y.medium z := hz ▸ synchronizes _ _
  obtain ⟨d, hread, halike⟩ := h.alikeAt_load hs hclosed hok hreload
  obtain ⟨hresult, hmedium, hagree⟩ := synchronize_fresh hread hz
  refine ⟨hresult, hmedium, ⟨?_, hfresh.removal.symm⟩, ?_, rfl⟩
  · refine Cache.alike_of_at (fun ns => (halike ns {}).congr (.refl ns _) (hagree ns)) fun ns => ?_
    exact (h.isModified_of_ok hok ns).trans (hfresh.isModified_of_ok hresult ns).symm
  · exact (hfresh.staged_of_ok hresult).trans (h.staged_of_ok hok).symm

end Store

end InitiatorStore
