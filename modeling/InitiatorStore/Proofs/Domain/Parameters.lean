import InitiatorStore.Domain.Connection
import InitiatorStore.Domain.Session
import InitiatorStore.Keyed.Lemmas
import InitiatorStore.Proofs.Text.Decimal

/-!
# Parameters that are written and read again

Session parameters read back as what was written exactly when they are in range, and whatever is
read is in range (`Session.ofNode?_toNode`, `Session.canonical_of_ofNode?`).  Connection parameters
always read back (`Connection.ofNode?_toNode`).

Which nodes are read as session parameters is told by the texts of their entries, which have to be
numerals that stand for numbers in range (`Session.accepts_iff`).
-/

namespace InitiatorStore

/-! ### Session parameters -/

namespace Session

variable {c : Session} {n : Node} {key : String} {bound k l : Nat}

/-- The entry of a node under a key is a string that stands for a number. -/
def NumberAt (n : Node) (key : String) (k : Nat) : Prop :=
  ∃ text, n.get? key = some (.scalar text) ∧ Text.Numeral text k

theorem NumberAt.unique (h : NumberAt n key k) (h' : NumberAt n key l) : k = l := by
  obtain ⟨text, htext, hnumeral⟩ := h
  obtain ⟨text', htext', hnumeral'⟩ := h'
  obtain rfl := Node.scalar.inj (Option.some.inj (htext.symm.trans htext'))
  exact hnumeral.unique hnumeral'

theorem NumberAt.exists_mapping (h : NumberAt n key k) : ∃ entries, n = .mapping entries := by
  obtain ⟨text, htext, -⟩ := h
  cases n with
  | scalar => cases htext
  | mapping entries => exact ⟨entries, rfl⟩

theorem field?_eq_some_iff : field? n key bound = some k ↔ NumberAt n key k ∧ k < bound := by
  have htext : ∀ text, n.getText? key = some text ↔ n.get? key = some (.scalar text) := by
    intro text
    rw [Node.getText?, Option.bind_eq_some_iff]
    constructor
    · rintro ⟨_ | _, hget, hnode⟩
      · obtain rfl := Option.some.inj hnode
        exact hget
      · cases hnode
    · exact fun hget => ⟨_, hget, rfl⟩
  simp [field?, Option.bind_eq_some_iff, htext, Text.readNatBelow?_eq_some_iff, NumberAt,
    ← and_assoc]

theorem lt_of_field? (h : field? n key bound = some k) : k < bound := (field?_eq_some_iff.1 h).2

/-- Session parameters that are in range. -/
structure Canonical (c : Session) : Prop where
  level : c.errorRecoveryLevel.toNat ≤ highestLevel
  connections : 1 ≤ c.maxConnections.toNat

theorem canonical_default : Canonical {} := ⟨by decide, by decide⟩

theorem toNode_eq (c : Session) : toNode c = .mapping ((((∅ : Document).insert levelKey
    (.scalar (Text.ofNat c.errorRecoveryLevel.toNat))).insert connectionsKey
    (.scalar (Text.ofNat c.maxConnections.toNat))).insert tagKey
    (.scalar (Text.ofNat c.portalGroupTag.toNat))) := by
  simp only [toNode, Node.ofList, Entries.ofList, List.foldl_cons, List.foldl_nil]
  rfl

/-- The numbers that are written stand in their entries. -/
theorem numberAt_toNode (c : Session) :
    NumberAt (toNode c) levelKey c.errorRecoveryLevel.toNat ∧
      NumberAt (toNode c) connectionsKey c.maxConnections.toNat ∧
      NumberAt (toNode c) tagKey c.portalGroupTag.toNat := by
  refine ⟨⟨_, ?_, Text.numeral_ofNat _⟩, ⟨_, ?_, Text.numeral_ofNat _⟩,
    ⟨_, ?_, Text.numeral_ofNat _⟩⟩ <;>
  simp [toNode_eq, Node.get?, Node.entries?, levelKey, connectionsKey, tagKey]

/-! A node is read field by field, and a number that is read from a field is what the field of the
result holds: the bound of a field is within its width. -/

theorem ofNode?_iff_field? : ofNode? n = some c ↔
    field? n levelKey (highestLevel + 1) = some c.errorRecoveryLevel.toNat ∧
      field? n connectionsKey UInt32.size = some c.maxConnections.toNat ∧
      1 ≤ c.maxConnections.toNat ∧
      c.portalGroupTag.toNat = (field? n tagKey UInt16.size).getD 0 := by
  constructor
  · intro h
    obtain ⟨level, hlevel, hrest⟩ := Option.bind_eq_some_iff.1 h
    obtain ⟨connections, hconnections, hc⟩ := Option.bind_eq_some_iff.1 hrest
    obtain rfl := Option.some.inj hc
    obtain ⟨hfield, hpositive⟩ := Option.filter_eq_some_iff.1 hconnections
    have hlevel' : (UInt8.ofNat level).toNat = level :=
      UInt8.toNat_ofNat_of_lt' (Nat.lt_of_lt_of_le (lt_of_field? hlevel) (by decide))
    have hconnections' : (UInt32.ofNat connections).toNat = connections :=
      UInt32.toNat_ofNat_of_lt' (lt_of_field? hfield)
    have htag : (UInt16.ofNat ((field? n tagKey UInt16.size).getD 0)).toNat =
        (field? n tagKey UInt16.size).getD 0 := by
      refine UInt16.toNat_ofNat_of_lt' ?_
      cases h : field? n tagKey UInt16.size with
      | none => decide
      | some tag => exact lt_of_field? h
    refine ⟨?_, ?_, ?_, htag⟩
    · rw [hlevel, hlevel']
    · rw [hfield, hconnections']
    · rw [hconnections']
      exact of_decide_eq_true hpositive
  · rintro ⟨hlevel, hconnections, hpositive, htag⟩
    simp [ofNode?, hlevel, hconnections, ← htag, Option.filter, hpositive]

/-- Session parameters that are in range read back. -/
theorem ofNode?_toNode (h : c.Canonical) : ofNode? (toNode c) = some c := by
  obtain ⟨hlevel, hconnections, htag⟩ := numberAt_toNode c
  refine ofNode?_iff_field?.2 ⟨?_, ?_, h.connections, ?_⟩
  · exact field?_eq_some_iff.2 ⟨hlevel, Nat.lt_succ_of_le h.level⟩
  · exact field?_eq_some_iff.2 ⟨hconnections, c.maxConnections.toNat_lt⟩
  · rw [field?_eq_some_iff.2 ⟨htag, c.portalGroupTag.toNat_lt⟩]
    rfl

/-- Session parameters that are read are in range. -/
theorem canonical_of_ofNode? (h : ofNode? n = some c) : c.Canonical := by
  obtain ⟨hlevel, -, hpositive, -⟩ := ofNode?_iff_field?.1 h
  exact ⟨Nat.le_of_lt_succ (lt_of_field? hlevel), hpositive⟩

/-- Session parameters that read back at all read back as they are. -/
theorem eq_of_ofNode?_toNode {c' : Session} (h : ofNode? (toNode c) = some c') : c' = c := by
  obtain ⟨hlevel, hconnections, htag⟩ := numberAt_toNode c
  obtain ⟨hlevel', hconnections', -, htag'⟩ := ofNode?_iff_field?.1 h
  rw [field?_eq_some_iff.2 ⟨htag, c.portalGroupTag.toNat_lt⟩] at htag'
  obtain ⟨level, connections, tag⟩ := c
  obtain ⟨level', connections', tag'⟩ := c'
  obtain rfl := UInt8.toNat_inj.1 ((field?_eq_some_iff.1 hlevel').1.unique hlevel)
  obtain rfl := UInt32.toNat_inj.1 ((field?_eq_some_iff.1 hconnections').1.unique hconnections)
  obtain rfl := UInt16.toNat_inj.1 htag'
  rfl

/-! ### Which nodes are session parameters -/

/-- A node has session parameters in its entries, given the portal group tag that it has. -/
structure AcceptedAs (n : Node) (tag : Nat) (c : Session) : Prop where
  mapping : ∃ entries, n = .mapping entries
  level : NumberAt n levelKey c.errorRecoveryLevel.toNat
  level_le : c.errorRecoveryLevel.toNat ≤ 2
  connections : NumberAt n connectionsKey c.maxConnections.toNat
  one_le_connections : 1 ≤ c.maxConnections.toNat
  connections_le : c.maxConnections.toNat ≤ 4294967295
  tag : c.portalGroupTag.toNat = tag

/-- The portal group tag that a node has: a number of 16 bits, or 0 where there is no entry. -/
def TagAt (n : Node) (tag : Nat) : Prop :=
  n.get? tagKey = none ∧ tag = 0 ∨ NumberAt n tagKey tag ∧ tag ≤ 65535

variable {tag : Nat}

theorem getD_field?_tagKey (h : TagAt n tag) : (field? n tagKey UInt16.size).getD 0 = tag := by
  rcases h with ⟨hnone, rfl⟩ | ⟨hnumber, hle⟩
  · simp [field?, Node.getText?, hnone]
  · rw [field?_eq_some_iff.2 ⟨hnumber, Nat.lt_succ_of_le hle⟩]
    rfl

/-- Numbers in range are the numbers of some session parameters. -/
theorem exists_acceptedAs {level connections : Nat} (htag : TagAt n tag)
    (hlevel : NumberAt n levelKey level) (hlevel_le : level ≤ 2)
    (hconnections : NumberAt n connectionsKey connections) (hpositive : 1 ≤ connections)
    (hconnections_le : connections ≤ 4294967295) : ∃ c, AcceptedAs n tag c := by
  have htag_le : tag ≤ 65535 := by
    rcases htag with ⟨-, rfl⟩ | ⟨-, hle⟩
    · exact Nat.zero_le _
    · exact hle
  have hlevel' : (UInt8.ofNat level).toNat = level :=
    UInt8.toNat_ofNat_of_lt' (Nat.lt_of_le_of_lt hlevel_le (by decide))
  have hconnections' : (UInt32.ofNat connections).toNat = connections :=
    UInt32.toNat_ofNat_of_lt' (Nat.lt_succ_of_le hconnections_le)
  refine ⟨⟨.ofNat level, .ofNat connections, .ofNat tag⟩, ?_⟩
  exact {
    mapping := hlevel.exists_mapping
    level := by rwa [hlevel']
    level_le := by rwa [hlevel']
    connections := by rwa [hconnections']
    one_le_connections := by rwa [hconnections']
    connections_le := by rwa [hconnections']
    tag := UInt16.toNat_ofNat_of_lt' (Nat.lt_succ_of_le htag_le) }

/-- A node whose portal group tag is missing or well formed is read as session parameters exactly
if its other two entries are numerals that stand for numbers in range, and these are the numbers
that are read.  A number out of range is refused, however it is spelled. -/
theorem accepts_iff (htag : TagAt n tag) :
    (∀ c, ofNode? n = some c ↔ AcceptedAs n tag c) ∧
    ((∃ c : Session, ofNode? n = some c) ↔
      (∃ level, NumberAt n levelKey level ∧ level ≤ 2) ∧
      ∃ connections, NumberAt n connectionsKey connections ∧ 1 ≤ connections ∧
        connections ≤ 4294967295) ∧
    (∀ level, NumberAt n levelKey level → 2 < level → (ofNode? n : Option Session) = none) ∧
    ∀ connections, NumberAt n connectionsKey connections →
      connections = 0 ∨ 4294967295 < connections → (ofNode? n : Option Session) = none := by
  have hiff : ∀ c, ofNode? n = some c ↔ AcceptedAs n tag c := by
    intro c
    rw [ofNode?_iff_field?, getD_field?_tagKey htag, field?_eq_some_iff, field?_eq_some_iff]
    constructor
    · rintro ⟨⟨hlevel, hbound⟩, ⟨hconnections, hbound'⟩, hpositive, htag⟩
      exact ⟨hlevel.exists_mapping, hlevel, Nat.le_of_lt_succ hbound, hconnections, hpositive,
        Nat.le_of_lt_succ hbound', htag⟩
    · intro h
      exact ⟨⟨h.level, Nat.lt_succ_of_le h.level_le⟩,
        ⟨h.connections, Nat.lt_succ_of_le h.connections_le⟩, h.one_le_connections, h.tag⟩
  refine ⟨hiff, ?_, fun level hlevel hout => ?_, fun connections hconnections hout => ?_⟩
  · constructor
    · rintro ⟨c, hc⟩
      have h := (hiff c).1 hc
      exact ⟨⟨_, h.level, h.level_le⟩, _, h.connections, h.one_le_connections, h.connections_le⟩
    · rintro ⟨⟨level, hlevel, hle⟩, connections, hconnections, hpositive, hle'⟩
      obtain ⟨c, hc⟩ := exists_acceptedAs htag hlevel hle hconnections hpositive hle'
      exact ⟨c, (hiff c).2 hc⟩
  · refine Option.eq_none_iff_forall_ne_some.2 fun c hc => ?_
    have haccepted := (hiff c).1 hc
    obtain rfl := hlevel.unique haccepted.level
    exact absurd haccepted.level_le (Nat.not_le.2 hout)
  · refine Option.eq_none_iff_forall_ne_some.2 fun c hc => ?_
    have haccepted := (hiff c).1 hc
    obtain rfl := hconnections.unique haccepted.connections
    have hpositive := haccepted.one_le_connections
    have hle := haccepted.connections_le
    omega

/-- Numbers with signs, leading zeros and white space, the second one the greatest of its width. -/
theorem accepts_iff_padded :
    let n := Node.ofList [(levelKey, .scalar "\u3000+02 "), (connectionsKey, .scalar "04294967295"),
      (tagKey, .scalar "7")]
    TagAt n 7 ∧ ofNode? n = some
      ({ errorRecoveryLevel := 2, maxConnections := 4294967295, portalGroupTag := 7 } : Session) := by
  intro n
  have hlevel : NumberAt n levelKey 2 :=
    ⟨_, rfl, ['\u3000'], ['+'], ['0', '2'], [' '], rfl, List.all_eq_true.1 rfl,
      List.all_eq_true.1 rfl, .inr rfl,
      Text.digits_iff.2 ⟨by decide, List.all_eq_true.1 rfl, rfl⟩⟩
  have hconnections : NumberAt n connectionsKey 4294967295 :=
    ⟨_, rfl, [], [], "04294967295".toList, [], rfl, nofun, nofun, .inl rfl,
      Text.digits_iff.2 ⟨by decide, List.all_eq_true.1 rfl, rfl⟩⟩
  have htag : TagAt n 7 :=
    .inr ⟨⟨_, rfl, [], [], ['7'], [], rfl, nofun, nofun, .inl rfl, .one (by decide)⟩, by decide⟩
  refine ⟨htag, ((accepts_iff htag).1 _).2 ?_⟩
  exact ⟨⟨_, rfl⟩, hlevel, by decide, hconnections, by decide, by decide, rfl⟩

/-- A number that would be in range without its high bits is refused. -/
example : (ofNode? (Node.ofList [(levelKey, .scalar "258"), (connectionsKey, .scalar "1")]) :
    Option Session) = none := by
  decide +kernel

end Session

/-! ### Connection parameters -/

namespace Connection

theorem ofNode?_toNode (c : Connection) : ofNode? (toNode c) = some c := by
  obtain ⟨header, data⟩ := c
  cases header <;> cases data <;> rfl

end Connection

end InitiatorStore
