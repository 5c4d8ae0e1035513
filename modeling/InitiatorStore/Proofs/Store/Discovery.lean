import InitiatorStore.Proofs.Domain.Discovery
import InitiatorStore.Proofs.Store.Runs

/-!
# Discoveries that are added to one another

A record that is added overlays the mapping of what was discovered, target by target.  So after
several additions each target has what the last record that names it says of the target, and nothing
of what earlier records say (`LastWins.named`).  A target that none of them names has what it had,
and its entry stays even if it cannot be read (`LastWins.unnamed`, `LastWins.kept`).

The mapping holds encoded records and is read back as a whole.  That this can be told target by
target rests on two facts: an entry of an encoded record is the encoding of the target's portal
groups (`DiscoveryRecord.get?_entries`), and the portal groups that are read under a target come
from the entry of the target alone (`DiscoveryRecord.groups?_of_ofNode?`).
-/

namespace InitiatorStore

/-! ### Records as mappings -/

namespace DiscoveryRecord

/-- Whether a record names a target. -/
def names (target : String) (r : DiscoveryRecord) : Bool := r.targets.contains target

/-- The last record that names a target. -/
def lastNaming? (records : List DiscoveryRecord) (target : String) : Option DiscoveryRecord :=
  records.reverse.find? (names target)

/-- A mapping with some records added, one after the other. -/
def overlay (before : Document) (records : List DiscoveryRecord) : Document :=
  records.foldl (fun m r => m.merge r.entries) before

variable {r : DiscoveryRecord} {records : List DiscoveryRecord} {target : String}

theorem names_iff : r.names target ↔ target ∈ r.targetNames := Entries.mem_keys.symm

theorem get?_entries (r : DiscoveryRecord) (target : String) :
    r.entries.get? target = (r.groups? target).map groupsNode :=
  Entries.get?_mapVals ..

theorem isSome_get?_entries (r : DiscoveryRecord) (target : String) :
    (r.entries.get? target).isSome = r.names target := by
  rw [get?_entries, Option.isSome_map]
  rfl

theorem lastNaming?_eq_none :
    lastNaming? records target = none ↔ ∀ r ∈ records, target ∉ r.targetNames := by
  simp only [lastNaming?, List.find?_eq_none, List.mem_reverse, names_iff]

/-- The last record that names a target decides about its entry. -/
theorem get?_overlay (before : Document) (records : List DiscoveryRecord) (target : String) :
    (overlay before records).get? target =
      match lastNaming? records target with
      | some r => r.entries.get? target
      | none => before.get? target := by
  induction records generalizing before with
  | nil => rfl
  | cons r records ih =>
    refine (ih _).trans ?_
    rw [lastNaming?, lastNaming?, List.reverse_cons, List.find?_append]
    cases records.reverse.find? (names target) with
    | some last => rfl
    | none =>
      rw [Option.none_or, Entries.get?_merge, List.find?_singleton, ← isSome_get?_entries]
      cases hentry : r.entries.get? target with
      | some n => exact hentry.symm
      | none => exact Option.none_or

/-- A mapping to which records are added has an entry for each target that it had or that one of the
records names. -/
theorem mem_keys_overlay {before : Document} :
    target ∈ (overlay before records).keys ↔
      target ∈ before.keys ∨ ∃ r ∈ records, target ∈ r.targetNames := by
  rw [Entries.mem_keys, Entries.mem_keys, Entries.contains, get?_overlay]
  cases hlast : lastNaming? records target with
  | none =>
    have hunnamed : ¬ ∃ r ∈ records, target ∈ r.targetNames := by
      rintro ⟨r, hr, htarget⟩
      exact lastNaming?_eq_none.1 hlast r hr htarget
    rw [or_iff_left hunnamed]
    rfl
  | some r =>
    have hr : r ∈ records := List.mem_reverse.1 (List.mem_of_find?_eq_some hlast)
    have hnames : r.names target := List.find?_some hlast
    exact iff_of_true ((r.isSome_get?_entries target).trans hnames)
      (.inr ⟨r, hr, names_iff.1 hnames⟩)

/-- What is read after some records have been added to a mapping, and what the mapping is then. -/
structure LastWins (before after : Document) (records : List DiscoveryRecord)
    (read : DiscoveryRecord) : Prop where
  /-- The targets are those of the mapping and those of the records. -/
  targets : ∀ target, target ∈ read.targetNames ↔
    target ∈ before.keys ∨ ∃ r ∈ records, target ∈ r.targetNames
  /-- Of a target that is named, what the last record that names it says is read. -/
  named : ∀ target r, lastNaming? records target = some r →
    read.groups? target = (ofNode? (toNode r)).bind (groups? · target)
  /-- Of a target that no record names, what its entry in the mapping says is read. -/
  unnamed : ∀ target, lastNaming? records target = none →
    read.groups? target = (ofNode? (.mapping before)).bind (groups? · target)
  /-- The entry of a target that no record names is kept as it is. -/
  kept : ∀ target, lastNaming? records target = none → after.get? target = before.get? target

/-- The portal groups that are read under a target come from the entry of the target. -/
theorem bind_groups?_ofNode? (m : Document) (target : String) :
    (ofNode? (.mapping m)).bind (groups? · target) = (m.get? target).map groupsOfNode :=
  groups?_of_ofNode? (n := .mapping m) rfl target

theorem lastWins_overlay {before : Document} {read : DiscoveryRecord}
    (hread : ofNode? (.mapping (overlay before records)) = some read) :
    LastWins before (overlay before records) records read := by
  have hgroups : ∀ target, read.groups? target =
      ((overlay before records).get? target).map groupsOfNode := groups?_of_ofNode? hread
  constructor
  · intro target
    rw [← mem_keys_overlay, (readFrom_of_ofNode? hread).targets]
    rfl
  · intro target r hlast
    rw [hgroups, get?_overlay, hlast]
    exact (bind_groups?_ofNode? r.entries target).symm
  · intro target hlast
    rw [hgroups, get?_overlay, hlast, bind_groups?_ofNode?]
  · intro target hlast
    rw [get?_overlay, hlast]

end DiscoveryRecord

/-- A mapping is written as it stands. -/
theorem toNode_document (m : Document) : toNode m = .mapping m := by
  refine congrArg Node.mapping (Entries.ext_get? fun k => ?_)
  rw [Entries.get?_mapVals]
  exact Option.map_id_apply

/-! ### Additions -/

namespace Store

variable (s : Store)

/-- The mapping of what was discovered, empty if there is none. -/
def discovered (s : Store) : Document := s.cache.discovery.value.getD ∅

theorem addDiscovery_eq (r : DiscoveryRecord) :
    s.addDiscovery r = s.onDiscovery fun _ => ⟨some (s.discovered.merge r.entries), true⟩ := rfl

/-- A record that is added once more changes nothing. -/
theorem addDiscovery_addDiscovery (r : DiscoveryRecord) :
    (s.addDiscovery r).addDiscovery r = s.addDiscovery r := by
  have hmerge : (s.discovered.merge r.entries).merge r.entries = s.discovered.merge r.entries :=
    Entries.merge_merge_self ..
  have htwice : (s.addDiscovery r).addDiscovery r = s.onDiscovery fun _ =>
      ⟨some ((s.discovered.merge r.entries).merge r.entries), true⟩ := rfl
  rw [htwice, hmerge, addDiscovery_eq]

end Store

namespace StoreOp

/-- Records that are added overlay what was discovered. -/
theorem discovery_runAll_addDiscovery (s : Store) (v : Vault) (m : Medium) (r : DiscoveryRecord)
    (records : List DiscoveryRecord) :
    (runAll s v m ((r :: records).map .addDiscovery)).1.cache.discovery.value =
      some (DiscoveryRecord.overlay s.discovered (r :: records)) := by
  induction records generalizing s r with
  | nil => rfl
  | cons r' records ih => exact ih (s.addDiscovery r) r'

/-- After some records have been added, the targets that were discovered are those that were there
and those of the records; of each target the last record that names it tells, and where none does
what was there stays as it was.  A record that is added twice in a row is added once. -/
theorem lastWins_runAll_addDiscovery (s : Store) (v : Vault) (m : Medium) (r : DiscoveryRecord)
    (records : List DiscoveryRecord) :
    (∃ after read,
      (runAll s v m ((r :: records).map .addDiscovery)).1.cache.discovery.value = some after ∧
      (runAll s v m ((r :: records).map .addDiscovery)).1.discovery? = some read ∧
      DiscoveryRecord.LastWins s.discovered after (r :: records) read) ∧
    runAll s v m [.addDiscovery r, .addDiscovery r] = runAll s v m [.addDiscovery r] := by
  have hvalue := discovery_runAll_addDiscovery s v m r records
  refine ⟨⟨_, _, hvalue, ?_, DiscoveryRecord.lastWins_overlay rfl⟩, ?_⟩
  · rw [Store.discovery?, hvalue, Option.bind_some, toNode_document]
    rfl
  · exact congrArg (·, v) (s.addDiscovery_addDiscovery r)

end StoreOp

end InitiatorStore
