import InitiatorStore.Proofs.Domain.Filing
import InitiatorStore.Proofs.Domain.Parameters

/-!
# Values that read back

Writing a value as a node does not check it, and reading a node does.  So a value need not read back
as itself: it reads back as its normal form, if it has one.  The canonical values are those that are
their own normal form, and nothing but canonical values is ever read (`Normalizes`).

A target needs a name and a portal an address.  An empty alias is dropped, and an empty port becomes
the well-known one.  Session parameters have to be in range, and connection parameters are canonical
always.  `codecs_normalize` says so of all four.
-/

namespace InitiatorStore

/-- A codec reads what it has written as the normal form of the value, and reads nothing but
canonical values. -/
structure Normalizes {α : Type} [NodeCodec α] (normal? : α → Option α) (Canonical : α → Prop) :
    Prop where
  /-- What has been written is read as its normal form, or not at all. -/
  readAs : ∀ v : α, ofNode? (toNode v) = normal? v
  /-- The canonical values are those that read back. -/
  readBack : ∀ v : α, ofNode? (toNode v) = some v ↔ Canonical v
  /-- Whatever is read is canonical. -/
  canonical : ∀ (n : Node) (v : α), ofNode? n = some v → Canonical v
  /-- Whatever is read is read again once it is written. -/
  readAgain : ∀ (n : Node) (v : α), ofNode? n = some v → ofNode? (toNode v) = some v

/-- It is enough to know what a value reads back as, and which values are read. -/
theorem Normalizes.of_readAs {α : Type} [NodeCodec α] {normal? : α → Option α}
    {Canonical : α → Prop} (readAs : ∀ v : α, ofNode? (toNode v) = normal? v)
    (fixed : ∀ v, Canonical v → normal? v = some v)
    (canonical : ∀ (n : Node) (v : α), ofNode? n = some v → Canonical v) :
    Normalizes normal? Canonical where
  readAs := readAs
  readBack v := ⟨canonical _ v, fun h => (readAs v).trans (fixed v h)⟩
  canonical := canonical
  readAgain n v h := (readAs v).trans (fixed v (canonical n v h))

variable {n : Node}

theorem filter_ne_empty (text : Option String) :
    text.filter (· ≠ "") = if text = some "" then none else text := by
  cases text with
  | none => rfl
  | some text => by_cases h : text = "" <;> simp [Option.filter, h]

/-! ### Targets -/

namespace Target

variable {t : Target}

/-- A target with a name, and with an alias that is not empty if it has one. -/
structure Canonical (t : Target) : Prop where
  name : t.name ≠ ""
  alias? : t.alias? ≠ some ""

/-- The target without an empty alias, if it has a name. -/
def normal? (t : Target) : Option Target :=
  if t.name = "" then none
  else some { t with alias? := if t.alias? = some "" then none else t.alias? }

theorem getText?_aliasKey (t : Target) : (toNode t).getText? aliasKey = t.alias? := by
  obtain ⟨name, _ | aliasName⟩ := t
  · have hkeys : aliasKey ≠ nameKey := by decide
    simp [Node.getText?, Node.get?, Node.entries?, toNode, hkeys, Entries.empty]
  · simp [Node.getText?, Node.get?, Node.entries?, Node.text?, toNode]

theorem ofNode?_toNode (t : Target) : ofNode? (toNode t) = t.normal? := by
  show (((toNode t).getText? nameKey).filter (· ≠ "")).map _ = _
  rw [getText?_nameKey, getText?_aliasKey, filter_ne_empty, filter_ne_empty, normal?]
  by_cases h : t.name = "" <;> simp [h]

theorem normal?_of_canonical (h : t.Canonical) : t.normal? = some t := by
  rw [normal?, if_neg h.name, if_neg h.alias?]

theorem canonical_of_ofNode? (h : ofNode? n = some t) : t.Canonical := by
  obtain ⟨name, hname, rfl⟩ := Option.map_eq_some_iff.1 h
  refine ⟨of_decide_eq_true (Option.filter_eq_some_iff.1 hname).2, fun halias => ?_⟩
  exact absurd rfl (of_decide_eq_true (Option.filter_eq_some_iff.1 halias).2)

end Target

/-! ### Portals -/

namespace Portal

variable {p : Portal}

/-- A portal with an address and a port. -/
structure Canonical (p : Portal) : Prop where
  address : p.address ≠ ""
  port : p.port ≠ ""

/-- The portal with the well-known port in place of an empty one, if it has an address. -/
def normal? (p : Portal) : Option Portal :=
  if p.address = "" then none
  else some { p with port := if p.port = "" then defaultPort else p.port }

theorem getText?_portKey (p : Portal) : (toNode p).getText? portKey = some p.port := by
  have hinterface : portKey ≠ interfaceKey := by decide
  simp [Node.getText?, Node.get?, Node.entries?, Node.text?, toNode, Node.ofList, Entries.ofList,
    hinterface]

theorem getText?_interfaceKey (p : Portal) :
    (toNode p).getText? interfaceKey = some p.interface := by
  simp [Node.getText?, Node.get?, Node.entries?, Node.text?, toNode, Node.ofList, Entries.ofList]

theorem ofNode?_toNode_eq (p : Portal) : ofNode? (toNode p) = p.normal? := by
  show (((toNode p).getText? addressKey).filter (· ≠ "")).map _ = _
  rw [getText?_addressKey, getText?_portKey, getText?_interfaceKey, filter_ne_empty,
    filter_ne_empty, normal?]
  by_cases h : p.address = ""
  · simp [h]
  · by_cases hport : p.port = "" <;> simp [h, hport]

theorem normal?_of_canonical (h : p.Canonical) : p.normal? = some p := by
  rw [normal?, if_neg h.address, if_neg h.port]

theorem ofNode?_toNode (h : p.Canonical) : ofNode? (toNode p) = some p :=
  p.ofNode?_toNode_eq.trans (normal?_of_canonical h)

theorem canonical_of_ofNode? (h : ofNode? n = some p) : p.Canonical := by
  obtain ⟨address, haddress, rfl⟩ := Option.map_eq_some_iff.1 h
  refine ⟨of_decide_eq_true (Option.filter_eq_some_iff.1 haddress).2, ?_⟩
  show ((n.getText? portKey).filter (· ≠ "")).getD defaultPort ≠ ""
  cases hport : (n.getText? portKey).filter (· ≠ "") with
  | none => decide
  | some port => exact of_decide_eq_true (Option.filter_eq_some_iff.1 hport).2

end Portal

/-! ### Parameters -/

namespace Session

/-- The session parameters, if they are in range. -/
def normal? (c : Session) : Option Session :=
  if c.errorRecoveryLevel.toNat ≤ highestLevel ∧ 1 ≤ c.maxConnections.toNat then some c else none

theorem normal?_of_canonical {c : Session} (h : c.Canonical) : c.normal? = some c :=
  if_pos ⟨h.level, h.connections⟩

theorem ofNode?_toNode_eq (c : Session) : ofNode? (toNode c) = c.normal? := by
  by_cases h : c.Canonical
  · exact (ofNode?_toNode h).trans (normal?_of_canonical h).symm
  · have hnormal : c.normal? = none := if_neg fun hrange => h ⟨hrange.1, hrange.2⟩
    rw [hnormal, Option.eq_none_iff_forall_ne_some]
    intro c' hc'
    obtain rfl := eq_of_ofNode?_toNode hc'
    exact h (canonical_of_ofNode? hc')

end Session

/-! ### All of them -/

/-- Targets, portals and parameters are read as their normal forms: the canonical ones read back as
they are, and nothing but canonical ones is read. -/
theorem codecs_normalize :
    Normalizes Target.normal? Target.Canonical ∧
    Normalizes Portal.normal? Portal.Canonical ∧
    Normalizes Session.normal? Session.Canonical ∧
    Normalizes (some : Connection → Option Connection) fun _ => True :=
  ⟨.of_readAs Target.ofNode?_toNode (fun _ => Target.normal?_of_canonical)
      fun _ _ => Target.canonical_of_ofNode?,
    .of_readAs Portal.ofNode?_toNode_eq (fun _ => Portal.normal?_of_canonical)
      fun _ _ => Portal.canonical_of_ofNode?,
    .of_readAs Session.ofNode?_toNode_eq (fun _ => Session.normal?_of_canonical)
      fun _ _ => Session.canonical_of_ofNode?,
    .of_readAs Connection.ofNode?_toNode (fun _ _ => rfl) fun _ _ _ => trivial⟩

/-- An empty alias and an empty port do not read back. -/
example : ofNode? (toNode ({ name := "t", alias? := some "" } : Target)) =
      some ({ name := "t" } : Target) ∧
    ofNode? (toNode ({ address := "a", port := "" } : Portal)) =
      some ({ address := "a", port := "3260" } : Portal) := by
  decide

end InitiatorStore
