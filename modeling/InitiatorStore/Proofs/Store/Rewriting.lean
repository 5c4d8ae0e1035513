import InitiatorStore.Proofs.Command.Edits

/-!
# Session parameters that are read and written again

An entry of session parameters is unusable if it is there and is no number that its key allows
(`Session.Unusable`).  An unusable error recovery level or an unusable number of connections makes
the whole node unreadable.  An unusable portal group tag does not: the node is read as if the tag
were missing.

So whoever reads session parameters, changes some of them and writes them again keeps every number
that was read, but an unusable tag is 0 from then on; and where nothing could be read, the defaults
take the place of all that stood there (`Session.unusable_refused_or_replaced`).
-/

namespace InitiatorStore

namespace Session

variable {n : Node} {key : String} {least greatest : Nat}

/-- An entry of a node that is there, and is not a string that stands for a number in a range. -/
def Unusable (n : Node) (key : String) (least greatest : Nat) : Prop :=
  n.get? key ≠ none ∧ ∀ k, NumberAt n key k → k < least ∨ greatest < k

/-- The node that is written when session parameters are read from a node, or are the defaults where
none are read, and what is given takes the place of what it stands for. -/
def rewritten (n : Node) (level? : Option UInt8) (connections? : Option UInt32) : Node :=
  toNode ((((ofNode? n : Option Session)).getD {}).replace level? connections?)

/-- The numbers that stand in the entries of a node. -/
structure Numbers (n : Node) (level connections tag : Nat) : Prop where
  level : NumberAt n levelKey level
  connections : NumberAt n connectionsKey connections
  tag : NumberAt n tagKey tag

theorem numbers_toNode (c : Session) : Numbers (toNode c) c.errorRecoveryLevel.toNat
    c.maxConnections.toNat c.portalGroupTag.toNat :=
  have h := numberAt_toNode c
  ⟨h.1, h.2.1, h.2.2⟩

/-! ### Reading -/

/-- No number is read from an unusable entry. -/
theorem Unusable.field?_eq_none (h : Unusable n key least greatest) {bound : Nat}
    (hbound : ∀ k, field? n key bound = some k → least ≤ k ∧ k ≤ greatest) :
    field? n key bound = none := by
  rw [Option.eq_none_iff_forall_ne_some]
  intro k hk
  obtain ⟨hleast, hgreatest⟩ := hbound k hk
  rcases h.2 k (field?_eq_some_iff.1 hk).1 with hlt | hlt
  · exact absurd hleast (Nat.not_le.2 hlt)
  · exact absurd hgreatest (Nat.not_le.2 hlt)

theorem Unusable.level (h : Unusable n levelKey 0 2) : (ofNode? n : Option Session) = none := by
  rw [Option.eq_none_iff_forall_ne_some]
  intro c hc
  obtain ⟨hlevel, -⟩ := ofNode?_iff_field?.1 hc
  have hnone : field? n levelKey (highestLevel + 1) = none :=
    h.field?_eq_none fun k hk => ⟨Nat.zero_le k, Nat.le_of_lt_succ (lt_of_field? hk)⟩
  rw [hnone] at hlevel
  cases hlevel

theorem Unusable.connections (h : Unusable n connectionsKey 1 4294967295) :
    (ofNode? n : Option Session) = none := by
  rw [Option.eq_none_iff_forall_ne_some]
  intro c hc
  obtain ⟨-, hconnections, hpositive, -⟩ := ofNode?_iff_field?.1 hc
  have hnumber := (field?_eq_some_iff.1 hconnections).1
  rcases h.2 _ hnumber with hlt | hlt
  · exact absurd hpositive (Nat.not_le.2 hlt)
  · exact absurd c.maxConnections.toNat_lt (Nat.not_lt.2 hlt)

theorem Unusable.tag (h : Unusable n tagKey 0 65535) : field? n tagKey UInt16.size = none :=
  h.field?_eq_none fun k hk => ⟨Nat.zero_le k, Nat.le_of_lt_succ (lt_of_field? hk)⟩

/-- An entry stands in a mapping. -/
theorem Unusable.exists_mapping (h : Unusable n key least greatest) :
    ∃ entries, n = .mapping entries := by
  cases n with
  | scalar => exact absurd rfl h.1
  | mapping entries => exact ⟨entries, rfl⟩

/-- A field is read from its own entry. -/
theorem field?_erase {entries : Document} {key' : String} (hne : key ≠ key') (bound : Nat) :
    field? (.mapping (entries.erase key')) key bound = field? (.mapping entries) key bound := by
  simp [field?, Node.getText?, Node.get?, Node.entries?, hne]

/-- With an unusable portal group tag a node is read as without it. -/
theorem Unusable.ofNode?_erase {entries : Document}
    (h : Unusable (.mapping entries) tagKey 0 65535) :
    (ofNode? (.mapping entries) : Option Session) = ofNode? (.mapping (entries.erase tagKey)) := by
  have hmissing : field? (.mapping (entries.erase tagKey)) tagKey UInt16.size = none := by
    simp [field?, Node.getText?, Node.get?, Node.entries?]
  ext c
  rw [ofNode?_iff_field?, ofNode?_iff_field?, h.tag, hmissing,
    field?_erase (show levelKey ≠ tagKey by decide),
    field?_erase (show connectionsKey ≠ tagKey by decide)]

/-! ### Writing again -/

/-- What stands in a node that is written again: what is given, and else the numbers of the session
parameters that were read. -/
theorem numbers_rewritten {c : Session} (hread : (ofNode? n : Option Session).getD {} = c)
    (level? : Option UInt8) (connections? : Option UInt32) :
    Numbers (rewritten n level? connections?) (level?.getD c.errorRecoveryLevel).toNat
      (connections?.getD c.maxConnections).toNat c.portalGroupTag.toNat := by
  rw [rewritten, hread]
  exact numbers_toNode (c.replace level? connections?)

/-- What becomes of the entries of a node when its session parameters are read and written again. -/
structure Rewrites (n : Node) (level? : Option UInt8) (connections? : Option UInt32) : Prop where
  /-- Where nothing is read, the defaults take the place of what stood there. -/
  refused : (ofNode? n : Option Session) = none →
    Numbers (rewritten n level? connections?) (level?.getD 0).toNat (connections?.getD 1).toNat 0
  /-- A tag that can be used, or is missing and so 0, stays with the other numbers. -/
  kept : ∀ (c : Session) (tag : Nat), ofNode? n = some c → TagAt n tag →
    Numbers (rewritten n level? connections?) (level?.getD c.errorRecoveryLevel).toNat
      (connections?.getD c.maxConnections).toNat tag
  /-- A tag that cannot be used is replaced by 0. -/
  replaced : ∀ c : Session, ofNode? n = some c → Unusable n tagKey 0 65535 →
    Numbers (rewritten n level? connections?) (level?.getD c.errorRecoveryLevel).toNat
      (connections?.getD c.maxConnections).toNat 0
  /-- This is what a store makes of the node. -/
  stored : ∀ (s : Store) (name : String) (r : TargetRecord), s.target? name = some r →
    r.session = some n →
    (s.setSession name (((s.session? name).getD {}).replace level? connections?)).target? name =
      some { r with session := some (rewritten n level? connections?) }

theorem rewrites (n : Node) (level? : Option UInt8) (connections? : Option UInt32) :
    Rewrites n level? connections? where
  refused h := numbers_rewritten (by rw [h, Option.getD_none]) level? connections?
  kept c tag h htag := by
    have hnumbers := numbers_rewritten (congrArg (Option.getD · {}) h) level? connections?
    have hc : c.portalGroupTag.toNat = tag :=
      (ofNode?_iff_field?.1 h).2.2.2.trans (getD_field?_tagKey htag)
    rwa [Option.getD_some, hc] at hnumbers
  replaced c h htag := by
    have hnumbers := numbers_rewritten (congrArg (Option.getD · {}) h) level? connections?
    have hc : c.portalGroupTag.toNat = 0 := by
      rw [(ofNode?_iff_field?.1 h).2.2.2, htag.tag]
      rfl
    rwa [Option.getD_some, hc] at hnumbers
  stored s name r hr hn := by
    have hsession : s.session? name = ofNode? n := by
      rw [Store.session?, hr, Option.bind_some, hn, Option.bind_some]
    have hset := (Setting.session name
      (((s.session? name).getD {}).replace level? connections?)).target?_set_self s
    rw [Setting.name, hr, hsession] at hset
    rw [hsession]
    exact hset

/-- Session parameters with an unusable level or an unusable number of connections are not read.
With an unusable tag they are read as if the tag were missing; when they are written again, the tag
is 0. -/
theorem unusable_refused_or_replaced (n : Node) :
    (Unusable n levelKey 0 2 ∨ Unusable n connectionsKey 1 4294967295 →
      (ofNode? n : Option Session) = none) ∧
    (Unusable n tagKey 0 65535 → ∃ entries, n = .mapping entries ∧
      (ofNode? n : Option Session) = ofNode? (.mapping (entries.erase tagKey))) ∧
    ∀ level? connections?, Rewrites n level? connections? := by
  refine ⟨fun h => h.elim Unusable.level Unusable.connections, fun h => ?_, rewrites n⟩
  obtain ⟨entries, rfl⟩ := h.exists_mapping
  exact ⟨entries, rfl, h.ofNode?_erase⟩

/-- Session parameters with a tag one past the greatest. -/
def pastGreatest : Node :=
  .ofList [(levelKey, .scalar "1"), (connectionsKey, .scalar "4"), (tagKey, .scalar "65536")]

theorem unusable_pastGreatest : Unusable pastGreatest tagKey 0 65535 := by
  have htag : NumberAt pastGreatest tagKey 65536 :=
    ⟨_, rfl, [], [], "65536".toList, [], rfl, nofun, nofun, .inl rfl,
      Text.digits_iff.2 ⟨by decide, List.all_eq_true.1 rfl, rfl⟩⟩
  refine ⟨by decide, fun k hk => .inr ?_⟩
  rw [hk.unique htag]
  decide

/-- A tag one past the greatest is 0 once the level has been set. -/
theorem unusable_replaced_pastGreatest :
    ofNode? pastGreatest = some
      ({ errorRecoveryLevel := 1, maxConnections := 4, portalGroupTag := 0 } : Session) ∧
    Numbers (rewritten pastGreatest (some 2) none) 2 4 0 := by
  have hread : ofNode? pastGreatest = some
      ({ errorRecoveryLevel := 1, maxConnections := 4, portalGroupTag := 0 } : Session) := by
    decide +kernel
  have hrewrites := (unusable_refused_or_replaced pastGreatest).2.2 (some 2) none
  exact ⟨hread, hrewrites.replaced _ hread unusable_pastGreatest⟩

/-- Not every node with an unusable tag is refused. -/
theorem not_refused_of_unusable :
    ¬ ∀ n, Unusable n tagKey 0 65535 → (ofNode? n : Option Session) = none := by
  intro hrefused
  have hnone := hrefused pastGreatest unusable_pastGreatest
  revert hnone
  decide +kernel

end Session

end InitiatorStore
