import InitiatorStore.Proofs.Store.Encoding
import InitiatorStore.Proofs.Store.Marks
import InitiatorStore.Proofs.Store.Operation
import InitiatorStore.Proofs.Store.Synchronize

/-!
# What holds of every store

A store that was opened with nothing staged keeps three properties through all operations
(`Store.Sound`): what is staged belongs to namespaces that are still marked, what is cached can be
read again once it is written, and the records keep nothing aside that is understood.
-/

namespace InitiatorStore

namespace Store

/-- The properties that a store has at all times. -/
structure Sound (s : Store) (m : Medium) : Prop where
  /-- What is staged belongs to namespaces that are marked. -/
  covered : s.Covered
  /-- What is cached is no deeper than what the medium gives back. -/
  fits : s.Fits m
  /-- The records in the caches keep nothing aside that is understood. -/
  tidy : Cache.Alike Likeness.encoded s.cache s.cache

variable {s : Store} {m m' : Medium}

theorem sound_fresh (p : Refusals) (r : Removal) (m : Medium) :
    Sound { prefs := { refusals := p }, removal := r } m where
  covered := nofun
  fits _ := Cache.bounded_empty _
  tidy := Cache.alike_empty _

theorem Sound.of_path?_eq (h : s.Sound m) (hpath : m'.path? = m.path?) : s.Sound m' where
  covered := h.covered
  fits hfile := h.fits (hpath ▸ hfile)
  tidy := h.tidy

theorem Synchronizes.sound {y : Sync} (h : Synchronizes s m y) (hs : s.Sound m) :
    y.store.Sound y.medium where
  covered := h.covered hs.covered
  fits := by
    intro hfile ns n hn
    have hbound := hs.fits (h.path? ▸ hfile)
    rcases h.agree_cases ns with hagree | ⟨d, hread, hagree⟩
    · exact hbound ns n (hagree.node?_eq ▸ hn)
    · rw [hagree.node?_eq] at hn
      refine hbound.load (fun n' hn' => ?_) ns n hn
      have hdepth := Node.depth_mapping_le.1 (Medium.fits_of_read hread hfile)
      exact hdepth ns.key n' hn'
  tidy := by
    refine Cache.alike_of_at (fun ns => ?_) fun _ => rfl
    rcases h.agree_cases ns with hagree | ⟨d, -, hagree⟩
    · exact (hs.tidy.at ns).congr hagree hagree
    · exact (Cache.alikeAt_load ns s.cache s.cache _).congr hagree hagree

theorem Sound.run (hs : s.Sound m) (op : StoreOp) (v : Vault) :
    (op.run s v m).store.Sound (op.run s v m).medium := by
  by_cases hop : op = .synchronize
  · subst hop
    rw [StoreOp.run_synchronize]
    exact (s.synchronizes m).sound hs
  · rw [StoreOp.medium_run hop]
    refine ⟨fun k n hk => ?_, fun hfile => ?_, ?_⟩
    · rw [StoreOp.staged_run hop] at hk
      obtain ⟨ns, hkey, hns⟩ := hs.covered k n hk
      exact ⟨ns, hkey, StoreOp.isModified_run hop hns⟩
    · exact bounded_run (by decide) (hs.fits hfile) hop v m
    · have halike : Alike Likeness.encoded s s := ⟨hs.tidy, rfl⟩
      exact (halike.run Likeness.kept_encoded hop v v m m).cache

end Store

namespace StoreOp

variable {m : Medium}

/-- No operation moves the document to another place. -/
theorem path?_run (op : StoreOp) (s : Store) (v : Vault) (m : Medium) :
    (op.run s v m).medium.path? = m.path? := by
  by_cases hop : op = .synchronize
  · subst hop
    rw [run_synchronize]
    exact (s.synchronizes m).path?
  · rw [medium_run hop]

theorem closed_run (hm : m.files.Closed) (op : StoreOp) (s : Store) (v : Vault) :
    (op.run s v m).medium.files.Closed := by
  by_cases hop : op = .synchronize
  · subst hop
    rw [run_synchronize]
    exact (s.synchronizes m).closed hm
  · rw [medium_run hop]
    exact hm

end StoreOp

end InitiatorStore
