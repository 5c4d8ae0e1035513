import InitiatorStore.Proofs.Depth
import InitiatorStore.Record
import Mathlib.Tactic.SplitIfs

/-!
# Encodings of records

The mapping of a record is described by its look-ups (`PortalRecord.get?_entries` and the like), and
so is the mapping of a record that has been read (`PortalRecord.get?_entries_ofEntries` and the
like).  Reading is not undone by writing: a portal comes back with its three blank entries, an
initiator with a name and an alias that are strings, a target without what is no portal list.  But a
record that has been written reads as one with the same encoding (`PortalRecord.readsBack`,
`TargetRecord.Tidy.readsBack`, `InitiatorRecord.readsBack`), and what is read never nests deeper
than what it was read from (`Shallow`).
-/

namespace InitiatorStore

/-! ### Entries that are not understood -/

section Other

variable {known : List String} {m : Document} {k : String}

theorem get?_otherEntries_of_mem (h : k ∈ known) (m : Document) :
    (otherEntries known m).get? k = none := by
  simp [otherEntries, h]

theorem get?_otherEntries_of_ne (h : k ∉ known) (h' : k ≠ authenticationKey) (m : Document) :
    (otherEntries known m).get? k = m.get? k := by
  rw [otherEntries, Entries.get?_filter]
  cases m.get? k <;> simp [h, h']

/-- What is kept aside under the key of the authentication tag is anything but a tag. -/
theorem get?_otherEntries_authentication (h : authenticationKey ∉ known) (m : Document) :
    (otherEntries known m).get? authenticationKey =
      (m.get? authenticationKey).filter fun n => n.text?.isNone := by
  simp [otherEntries, h]

/-- No entry of a mapping is understood, given the keys of those that are beside the authentication
tag. -/
structure NotUnderstood (known : List String) (m : Document) : Prop where
  /-- There is nothing under the keys that are understood. -/
  get? : ∀ k ∈ known, m.get? k = none
  /-- There is no authentication tag. -/
  authTag? : authTag? m = none

theorem notUnderstood_empty (known : List String) : NotUnderstood known ∅ :=
  ⟨fun _ _ => rfl, rfl⟩

theorem notUnderstood_otherEntries (h : authenticationKey ∉ known) (m : Document) :
    NotUnderstood known (otherEntries known m) := by
  refine ⟨fun k hk => get?_otherEntries_of_mem hk m, ?_⟩
  rw [authTag?, get?_otherEntries_authentication h]
  rcases m.get? authenticationKey with _ | _ | _ <;> rfl

/-- A tag that is kept beside a mapping, and the mapping's own entry under the key of the tag. -/
theorem or_get?_otherEntries_authentication (h : authenticationKey ∉ known) (m : Document) :
    ((authTag? m).map Node.scalar).or ((otherEntries known m).get? authenticationKey) =
      m.get? authenticationKey := by
  rw [authTag?, get?_otherEntries_authentication h]
  rcases m.get? authenticationKey with _ | _ | _ <;> rfl

end Other

/-! ### Portals of a target -/

namespace PortalRecord

theorem get?_entries (r : PortalRecord) (k : String) : r.entries.get? k =
    if k = authenticationKey then
      some (((r.authentication.map .scalar).or (r.other.get? k)).getD .blank)
    else if k = connectionKey then some r.connection
    else if k = portalKey then some r.portal
    else r.other.get? k := by
  have hkeys : authenticationKey ≠ connectionKey ∧ authenticationKey ≠ portalKey := by decide
  -- a blank tag is written where there is neither a tag nor an entry that was kept aside
  have hcontains : ((r.other.insert portalKey r.portal).insert connectionKey
      r.connection).contains authenticationKey = (r.other.get? authenticationKey).isSome := by
    simp [Entries.contains, hkeys]
  rw [entries]
  cases r.authentication with
  | some tag => simp
  | none =>
    simp only [hcontains]
    by_cases hk : k = authenticationKey
    · subst hk
      cases h : r.other.get? authenticationKey <;> simp [hkeys, h]
    · split <;> simp [hk]

/-- A portal that has been read is written with all three entries. -/
theorem get?_entries_ofEntries (m : Document) (k : String) : (ofEntries m).entries.get? k =
    if k ∈ authenticationKey :: knownKeys then some ((m.get? k).getD .blank) else m.get? k := by
  have hauth : authenticationKey ∉ knownKeys := by decide
  rw [get?_entries]
  by_cases hk : k = authenticationKey
  · subst hk
    rw [if_pos rfl, if_pos (List.mem_cons_self ..)]
    exact congrArg (fun n => some (Option.getD n Node.blank))
      (or_get?_otherEntries_authentication hauth m)
  · by_cases hknown : k ∈ knownKeys
    · rw [if_neg hk, if_pos (List.mem_cons_of_mem _ hknown)]
      simp only [knownKeys, List.mem_cons, List.not_mem_nil, or_false] at hknown
      rcases hknown with rfl | rfl
      · rfl
      · rfl
    · rw [if_neg hk, if_neg fun h => (List.mem_cons.1 h).elim hk hknown,
        if_neg fun (h : k = connectionKey) => hknown (h ▸ by decide),
        if_neg fun (h : k = portalKey) => hknown (h ▸ by decide)]
      exact get?_otherEntries_of_ne hknown hk m

end PortalRecord

/-! ### Targets -/

namespace TargetRecord

theorem get?_entries (r : TargetRecord) (k : String) : r.entries.get? k =
    if k = portalsKey then (r.portals.map toNode).or (r.other.get? k)
    else if k = authenticationKey then (r.authentication.map .scalar).or (r.other.get? k)
    else if k = sessionKey then r.session.or (r.other.get? k)
    else if k = targetKey then r.target.or (r.other.get? k)
    else r.other.get? k := by
  simp only [entries, Entries.get?_insertSome]
  split
  · next hk => subst hk; rfl
  · split
    · next hk => subst hk; rfl
    · split
      · next hk => subst hk; rfl
      · split
        · next hk => subst hk; rfl
        · rfl

/-- A target that has been read is written as it was, but for its list of portals. -/
theorem get?_entries_ofEntries (m : Document) (k : String) : (ofEntries m).entries.get? k =
    if k = portalsKey then ((m.get? k).bind (ofNode? (α := PortalTable))).map toNode
    else m.get? k := by
  have hauth : authenticationKey ∉ knownKeys := by decide
  rw [get?_entries]
  have hother : k ∈ knownKeys → ∀ n : Option Node, n.or ((ofEntries m).other.get? k) = n := by
    intro hk n
    rw [show (ofEntries m).other.get? k = none from get?_otherEntries_of_mem hk m, Option.or_none]
  split_ifs with hportals hauth' hsession htarget
  · rw [hother (by simp [hportals, knownKeys]), hportals]
    rfl
  · rw [hauth']
    exact or_get?_otherEntries_authentication hauth m
  · rw [hother (by simp [hsession, knownKeys]), hsession]
    rfl
  · rw [hother (by simp [htarget, knownKeys]), htarget]
    rfl
  · exact get?_otherEntries_of_ne (by simp [knownKeys, hportals, hsession, htarget]) hauth' m

end TargetRecord

/-! ### The initiator -/

namespace InitiatorRecord

theorem get?_entries (r : InitiatorRecord) (k : String) : r.entries.get? k =
    if k = authenticationKey then (r.authentication.map .scalar).or (r.other.get? k)
    else if k = aliasKey then some (.scalar r.aliasName)
    else if k = nameKey then some (.scalar r.name)
    else r.other.get? k := by
  have hkeys : authenticationKey ≠ aliasKey ∧ authenticationKey ≠ nameKey := by decide
  simp only [entries, Entries.get?_insertSome, Entries.get?_insert]
  split
  · next hk => subst hk; simp [hkeys]
  · rfl

/-- An initiator that has been read is written with a name and an alias that are strings. -/
theorem get?_entries_ofEntries (m : Document) (k : String) : (ofEntries m).entries.get? k =
    if k ∈ knownKeys then some (.scalar (((m.get? k).bind Node.text?).getD ""))
    else m.get? k := by
  have hauth : authenticationKey ∉ knownKeys := by decide
  rw [get?_entries]
  by_cases hknown : k ∈ knownKeys
  · rw [if_pos hknown, if_neg fun (h : k = authenticationKey) => hauth (h ▸ hknown)]
    simp only [knownKeys, List.mem_cons, List.not_mem_nil, or_false] at hknown
    rcases hknown with rfl | rfl
    · rfl
    · rfl
  · rw [if_neg hknown]
    split
    · next hk => subst hk; exact or_get?_otherEntries_authentication hauth m
    · next hk =>
      rw [if_neg fun (h : k = aliasKey) => hknown (h ▸ by decide),
        if_neg fun (h : k = nameKey) => hknown (h ▸ by decide)]
      exact get?_otherEntries_of_ne hknown hk m

end InitiatorRecord

/-! ### Records whose other entries are not understood -/

theorem bind_text?_or {n : Option Node} (h : n.bind Node.text? = none) (tag : Option String) :
    ((tag.map Node.scalar).or n).bind Node.text? = tag := by
  cases tag with
  | none => exact h
  | some tag => rfl

/-- A target record keeps nothing aside that is understood. -/
def TargetRecord.Tidy (r : TargetRecord) : Prop := NotUnderstood knownKeys r.other

/-- An initiator record keeps nothing aside that is understood. -/
def InitiatorRecord.Tidy (r : InitiatorRecord) : Prop := NotUnderstood knownKeys r.other

namespace TargetRecord

theorem tidy_ofEntries (m : Document) : (ofEntries m).Tidy :=
  notUnderstood_otherEntries (by decide) m

theorem tidy_fresh : ({} : TargetRecord).Tidy := notUnderstood_empty knownKeys

variable {r : TargetRecord}

theorem Tidy.get?_entries_target (h : r.Tidy) : r.entries.get? targetKey = r.target := by
  have hother : r.other.get? targetKey = none := h.get? _ (by decide)
  refine (get?_entries r targetKey).trans ?_
  rw [hother]
  exact Option.or_none

theorem Tidy.get?_entries_session (h : r.Tidy) : r.entries.get? sessionKey = r.session := by
  have hother : r.other.get? sessionKey = none := h.get? _ (by decide)
  refine (get?_entries r sessionKey).trans ?_
  rw [hother]
  exact Option.or_none

theorem Tidy.get?_entries_portals (h : r.Tidy) :
    r.entries.get? portalsKey = r.portals.map toNode := by
  have hother : r.other.get? portalsKey = none := h.get? _ (by decide)
  refine (get?_entries r portalsKey).trans ?_
  rw [hother]
  exact Option.or_none

theorem Tidy.authTag?_entries (h : r.Tidy) : authTag? r.entries = r.authentication := by
  refine Eq.trans ?_ (bind_text?_or h.authTag? r.authentication)
  exact congrArg (Option.bind · Node.text?) (get?_entries r authenticationKey)

end TargetRecord

namespace InitiatorRecord

theorem tidy_ofEntries (m : Document) : (ofEntries m).Tidy :=
  notUnderstood_otherEntries (by decide) m

theorem tidy_fresh : ({} : InitiatorRecord).Tidy := notUnderstood_empty knownKeys

variable {r : InitiatorRecord}

theorem get?_entries_name : r.entries.get? nameKey = some (.scalar r.name) :=
  (get?_entries r nameKey).trans rfl

theorem get?_entries_alias : r.entries.get? aliasKey = some (.scalar r.aliasName) :=
  (get?_entries r aliasKey).trans rfl

theorem Tidy.authTag?_entries (h : r.Tidy) : authTag? r.entries = r.authentication := by
  refine Eq.trans ?_ (bind_text?_or h.authTag? r.authentication)
  exact congrArg (Option.bind · Node.text?) (get?_entries r authenticationKey)

end InitiatorRecord

/-! ### Changes of one entry -/

namespace TargetRecord

theorem entries_target (r : TargetRecord) (n : Node) :
    entries { r with target := some n } = r.entries.insert targetKey n :=
  Entries.eq_insert (get?_entries _ _) fun k hk => by simp only [get?_entries, if_neg hk]

theorem entries_session (r : TargetRecord) (n : Node) :
    entries { r with session := some n } = r.entries.insert sessionKey n :=
  Entries.eq_insert (get?_entries _ _) fun k hk => by simp only [get?_entries, if_neg hk]

theorem entries_authentication (r : TargetRecord) (tag : String) :
    entries { r with authentication := some tag } =
      r.entries.insert authenticationKey (.scalar tag) :=
  Entries.eq_insert (get?_entries _ _) fun k hk => by simp only [get?_entries, if_neg hk]

theorem entries_portals (r : TargetRecord) (t : PortalTable) :
    entries { r with portals := some t } = r.entries.insert portalsKey (toNode t) :=
  Entries.eq_insert (get?_entries _ _) fun k hk => by simp only [get?_entries, if_neg hk]

end TargetRecord

namespace PortalRecord

theorem entries_portal (r : PortalRecord) (n : Node) :
    entries { r with portal := n } = r.entries.insert portalKey n :=
  Entries.eq_insert (get?_entries _ _) fun k hk => by simp only [get?_entries, if_neg hk]

theorem entries_connection (r : PortalRecord) (n : Node) :
    entries { r with connection := n } = r.entries.insert connectionKey n :=
  Entries.eq_insert (get?_entries _ _) fun k hk => by simp only [get?_entries, if_neg hk]

end PortalRecord

namespace InitiatorRecord

theorem entries_name (r : InitiatorRecord) (name : String) :
    entries { r with name } = r.entries.insert nameKey (.scalar name) :=
  Entries.eq_insert (get?_entries _ _) fun k hk => by simp only [get?_entries, if_neg hk]

theorem entries_alias (r : InitiatorRecord) (aliasName : String) :
    entries { r with aliasName } = r.entries.insert aliasKey (.scalar aliasName) :=
  Entries.eq_insert (get?_entries _ _) fun k hk => by simp only [get?_entries, if_neg hk]

theorem entries_authentication (r : InitiatorRecord) (tag : String) :
    entries { r with authentication := some tag } =
      r.entries.insert authenticationKey (.scalar tag) :=
  Entries.eq_insert (get?_entries _ _) fun k hk => by simp only [get?_entries, if_neg hk]

end InitiatorRecord

/-! ### Reading what has been written -/

/-- A value that has been written reads as one with the same encoding. -/
def ReadsBack {α : Type} [NodeCodec α] (a : α) : Prop :=
  (ofNode? (α := α) (toNode a)).map toNode = some (toNode a)

theorem Entries.readsBack {α : Type} [NodeCodec α] {t : Keyed α}
    (h : ∀ k a, t.get? k = some a → ReadsBack a) : ReadsBack t := by
  refine congrArg (fun m => some (Node.mapping m)) (ext_get? fun k => ?_)
  rw [get?_mapVals, get?_filterMapVals, get?_mapVals]
  cases hk : t.get? k with
  | none => rfl
  | some a => exact h k a hk

theorem PortalRecord.readsBack (r : PortalRecord) : ReadsBack r := by
  refine congrArg (fun m => some (Node.mapping m)) (Entries.ext_get? fun k => ?_)
  have hsome : k ∈ authenticationKey :: knownKeys → (r.entries.get? k).isSome := by
    intro hk
    simp only [knownKeys, List.mem_cons, List.not_mem_nil, or_false] at hk
    rw [get?_entries]
    rcases hk with rfl | rfl | rfl <;> rfl
  rw [get?_entries_ofEntries]
  split
  · next hk =>
    obtain ⟨n, hn⟩ := Option.isSome_iff_exists.1 (hsome hk)
    rw [hn]
    rfl
  · rfl

theorem TargetRecord.Tidy.readsBack {r : TargetRecord} (h : r.Tidy) : ReadsBack r := by
  refine congrArg (fun m => some (Node.mapping m)) (Entries.ext_get? fun k => ?_)
  rw [get?_entries_ofEntries]
  split
  · next hk =>
    subst hk
    rw [h.get?_entries_portals]
    cases r.portals with
    | none => rfl
    | some t => exact Entries.readsBack fun _ p _ => p.readsBack
  · rfl

theorem InitiatorRecord.readsBack (r : InitiatorRecord) : ReadsBack r := by
  refine congrArg (fun m => some (Node.mapping m)) (Entries.ext_get? fun k => ?_)
  rw [get?_entries_ofEntries]
  split
  · next hk =>
    simp only [knownKeys, List.mem_cons, List.not_mem_nil, or_false] at hk
    rcases hk with rfl | rfl
    · rw [get?_entries_name]; rfl
    · rw [get?_entries_alias]; rfl
  · rfl

/-! ### The depth of what is read -/

/-- A value that is read is written with no deeper nesting than it was read from. -/
def Shallow (α : Type) [NodeCodec α] : Prop :=
  ∀ (n : Node) (a : α), ofNode? n = some a → (toNode a).depth ≤ n.depth

/-- It is enough to look at mappings, and at their entries under each bound. -/
theorem shallow_of_entries {α : Type} [NodeCodec α] (entries : α → Document)
    (ofEntries : Document → α) (hto : ∀ a : α, toNode a = .mapping (entries a))
    (hof : ∀ n : Node, ofNode? n = n.entries?.map ofEntries)
    (h : ∀ (m : Document) (k : Nat), (∀ key n, m.get? key = some n → n.depth ≤ k) →
      ∀ key n, (entries (ofEntries m)).get? key = some n → n.depth ≤ k) : Shallow α := by
  intro n a ha
  rw [hof] at ha
  cases n with
  | scalar s => cases ha
  | mapping m =>
    obtain rfl : ofEntries m = a := Option.some.inj ha
    rw [hto, Node.depth, Node.depth, Nat.add_le_add_iff_right, Node.entriesDepth_le]
    exact h m _ (Node.entriesDepth_le.1 (Nat.le_refl _))

theorem shallow_node : Shallow Node := fun _ _ h => Option.some.inj h ▸ Nat.le_refl _

theorem shallow_keyed {α : Type} [NodeCodec α] (h : Shallow α) : Shallow (Keyed α) := by
  refine shallow_of_entries (fun t : Keyed α => t.mapVals toNode)
    (fun m : Document => m.filterMapVals ofNode?) (fun _ => rfl) (fun _ => rfl) ?_
  intro m k hm key n hn
  rw [Entries.get?_mapVals, Entries.get?_filterMapVals] at hn
  obtain ⟨a, ha, rfl⟩ := Option.map_eq_some_iff.1 hn
  obtain ⟨n', hn', ha⟩ := Option.bind_eq_some_iff.1 ha
  exact Nat.le_trans (h n' a ha) (hm key n' hn')

theorem shallow_portalRecord : Shallow PortalRecord := by
  refine shallow_of_entries _ _ (fun _ => rfl) (fun _ => rfl) fun m k hm key n hn => ?_
  rw [PortalRecord.get?_entries_ofEntries] at hn
  split at hn
  · cases hkey : m.get? key with
    | none =>
      rw [hkey] at hn
      exact Option.some.inj hn ▸ Nat.zero_le k
    | some n' =>
      rw [hkey] at hn
      exact hm key n (hkey.trans hn)
  · exact hm key n hn

theorem shallow_targetRecord : Shallow TargetRecord := by
  refine shallow_of_entries _ _ (fun _ => rfl) (fun _ => rfl) fun m k hm key n hn => ?_
  rw [TargetRecord.get?_entries_ofEntries] at hn
  split at hn
  · obtain ⟨t, ht, rfl⟩ := Option.map_eq_some_iff.1 hn
    obtain ⟨n', hn', ht⟩ := Option.bind_eq_some_iff.1 ht
    exact Nat.le_trans (shallow_keyed shallow_portalRecord n' t ht) (hm key n' hn')
  · exact hm key n hn

theorem shallow_initiatorRecord : Shallow InitiatorRecord := by
  refine shallow_of_entries _ _ (fun _ => rfl) (fun _ => rfl) fun m k hm key n hn => ?_
  rw [InitiatorRecord.get?_entries_ofEntries] at hn
  split at hn
  · exact Option.some.inj hn ▸ Nat.zero_le k
  · exact hm key n hn

end InitiatorStore
