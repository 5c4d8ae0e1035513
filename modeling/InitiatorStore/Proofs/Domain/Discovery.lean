import InitiatorStore.Proofs.Domain.Canonical

/-!
# Discovery records that are written and read again

What a record holds that is read from a node can be told from the node (`ReadFrom`): its targets are
the keys of the node, and in a portal group stand the portals that can be read among the children of
the group's node, each under its own address and the one under the greatest key in place of the
others that have its address.

A record is canonical if its portals have addresses and ports, are filed under these addresses, and
leave no group empty.  Whatever is read is canonical, adding targets and portals keeps a record
canonical, and canonical records read back.  `readFrom_readBack` puts this together.
-/

namespace InitiatorStore

variable {n : Node}

theorem Node.get?_eq (n : Node) (key : String) : n.get? key = (n.entries?.getD ∅).get? key :=
  Entries.bind_get? ..

/-! ### Portal groups -/

namespace DiscoveryRecord

section

variable {lo : Option String} {m : Entries Node lo} {key address : String} {p : Portal}

/-- The portal that an entry is read as. -/
def portalAt? (m : Entries Node lo) (key : String) : Option Portal := (m.get? key).bind ofNode?

/-- The portals that entries are read as, in order, with their addresses. -/
def filings (m : Entries Node lo) : List (String × Portal) :=
  (m.vals.filterMap ofNode?).map fun p : Portal => (p.address, p)

theorem get?_groupOfNode_eq (n : Node) (address : String) :
    (groupOfNode n).get? address = (filings (n.entries?.getD ∅)).reverse.lookup address :=
  Entries.get?_ofList ..

theorem portalAt?_cons {k : String} (hk : Above lo k) (child : Node)
    (rest : Entries Node (some k)) (key : String) : portalAt? (.cons k hk child rest) key =
      if key = k then ofNode? child else portalAt? rest key := by
  rw [portalAt?, Entries.get?]
  split <;> rfl

/-- A portal is read from the rest of the entries under a greater key. -/
theorem lt_of_portalAt? {k : String} {rest : Entries Node (some k)}
    (h : portalAt? rest key = some p) : k < key := by
  obtain ⟨child, hchild, -⟩ := Option.bind_eq_some_iff.1 h
  exact Entries.above_of_get? hchild

theorem portalAt?_cons_of_lt {k : String} (hk : Above lo k) (child : Node)
    (rest : Entries Node (some k)) (hlt : k < key) :
    portalAt? (.cons k hk child rest) key = portalAt? rest key := by
  rw [portalAt?_cons, if_neg]
  rintro rfl
  exact String.lt_irrefl _ hlt

theorem lookup_filings_cons {k : String} (hk : Above lo k) (child : Node)
    (rest : Entries Node (some k)) (address : String) :
    (filings (.cons k hk child rest)).reverse.lookup address =
      ((filings rest).reverse.lookup address).or
        ((ofNode? child).filter (·.address = address)) := by
  cases hchild : (ofNode? child : Option Portal) with
  | none => simp [filings, Entries.vals, Entries.toList, hchild]
  | some p =>
    have hsplit : filings (.cons k hk child rest) = (p.address, p) :: filings rest := by
      simp [filings, Entries.vals, Entries.toList, hchild]
    rw [hsplit, List.reverse_cons, List.lookup_append, List.lookup_cons, List.lookup_nil]
    by_cases haddress : p.address = address
    · simp [haddress, Option.filter]
    · simp [haddress, Option.filter, beq_eq_false_iff_ne.2 (Ne.symm haddress)]

theorem lookup_filings_eq_none : (filings m).reverse.lookup address = none ↔
    ∀ key p, portalAt? m key = some p → p.address ≠ address := by
  induction m with
  | nil => exact ⟨nofun, fun _ => rfl⟩
  | cons k hk child rest ih =>
    rw [lookup_filings_cons, Option.or_eq_none_iff, ih, Option.filter_eq_none_iff]
    simp only [decide_eq_true_eq]
    constructor
    · rintro ⟨hrest, hchild⟩ key p hp
      rw [portalAt?_cons] at hp
      split at hp
      · exact hchild p hp
      · exact hrest key p hp
    · intro h
      refine ⟨fun key p hp => ?_, fun p hp => ?_⟩
      · exact h key p ((portalAt?_cons_of_lt hk child rest (lt_of_portalAt? hp)).trans hp)
      · exact h k p ((portalAt?_cons ..).trans ((if_pos rfl).trans hp))

/-- A portal is read from the entry under a key, and from no later entry is one read that has its
address. -/
structure Last (m : Entries Node lo) (key : String) (p : Portal) : Prop where
  read : portalAt? m key = some p
  later : ∀ key' q, key < key' → portalAt? m key' = some q → q.address ≠ p.address

theorem Last.eq {key' : String} {q : Portal} (h : Last m key p) (h' : Last m key' q)
    (haddress : q.address = p.address) : q = p := by
  by_cases heq : key = key'
  · subst heq
    exact Option.some.inj (h'.read.symm.trans h.read)
  · by_cases hlt : key < key'
    · exact absurd haddress (h.later key' q hlt h'.read)
    · exact absurd haddress.symm (h'.later key p (lt_of_not_lt_of_ne hlt heq) h.read)

/-- What is found from the end of the portals is the last with its address. -/
theorem last_of_lookup (h : (filings m).reverse.lookup address = some p) :
    p.address = address ∧ ∃ key, Last m key p := by
  induction m with
  | nil => cases h
  | cons k hk child rest ih =>
    have htail : ∀ {key}, k < key → portalAt? (.cons k hk child rest) key = portalAt? rest key :=
      portalAt?_cons_of_lt hk child rest
    rw [lookup_filings_cons, Option.or_eq_some_iff] at h
    rcases h with h | ⟨hnone, h⟩
    · obtain ⟨haddress, key, hlast⟩ := ih h
      have hlt : k < key := lt_of_portalAt? hlast.read
      refine ⟨haddress, key, (htail hlt).trans hlast.read, fun key' q hlt' hq => ?_⟩
      exact hlast.later key' q hlt' ((htail (String.lt_trans hlt hlt')).symm.trans hq)
    · obtain ⟨hread, haddress⟩ := Option.filter_eq_some_iff.1 h
      have haddress : p.address = address := of_decide_eq_true haddress
      refine ⟨haddress, k, (portalAt?_cons ..).trans ((if_pos rfl).trans hread), ?_⟩
      intro key' q hlt hq
      rw [haddress]
      exact lookup_filings_eq_none.1 hnone key' q ((htail hlt).symm.trans hq)

/-- A portal group holds the portals that are read, each under its address, and of those with the
same address the last. -/
theorem get?_groupOfNode : (groupOfNode n).get? address = some p ↔
    p.address = address ∧ ∃ key, Last (n.entries?.getD ∅) key p := by
  rw [get?_groupOfNode_eq]
  refine ⟨last_of_lookup, ?_⟩
  rintro ⟨rfl, key, hlast⟩
  cases hfound : (filings (n.entries?.getD ∅)).reverse.lookup p.address with
  | none => exact absurd rfl (lookup_filings_eq_none.1 hfound key p hlast.read)
  | some q =>
    obtain ⟨haddress, key', hlast'⟩ := last_of_lookup hfound
    rw [hlast.eq hlast' haddress]

/-- A portal group is empty if no portal is read. -/
theorem isEmpty_groupOfNode : (groupOfNode n).isEmpty = false ↔
    ∃ key p, portalAt? (n.entries?.getD ∅) key = some p := by
  rw [Entries.isEmpty_eq_false_iff]
  constructor
  · rintro ⟨address, p, hp⟩
    obtain ⟨-, key, hlast⟩ := get?_groupOfNode.1 hp
    exact ⟨key, p, hlast.read⟩
  · rintro ⟨key, p, hp⟩
    refine ⟨p.address, ?_⟩
    rw [get?_groupOfNode_eq, ← Option.isSome_iff_exists, Option.isSome_iff_ne_none]
    exact fun hnone => lookup_filings_eq_none.1 hnone key p hp rfl

end

/-! ### Records that are read -/

/-- A portal group of a target. -/
def group? (r : DiscoveryRecord) (target group : String) : Option PortalGroup :=
  (r.groups? target).bind (·.get? group)

/-- The portal of a target that is filed under an address in a portal group. -/
def portal? (r : DiscoveryRecord) (target group address : String) : Option Portal :=
  (r.group? target group).bind (·.get? address)

/-- What a record holds that is read from a node.  The node of a portal group stands under the keys
of the target and of the group. -/
structure ReadFrom (r : DiscoveryRecord) (n : Node) : Prop where
  /-- The targets are the keys of the node. -/
  targets : r.targetNames = (n.entries?.getD ∅).keys
  /-- There is a portal group where there is a portal that can be read. -/
  groups : ∀ target group, (r.group? target group).isSome = true ↔
    ∃ child, (n.get? target).bind (·.get? group) = some child ∧
      ∃ key p, portalAt? (child.entries?.getD ∅) key = some p
  /-- A portal group holds the portals that can be read, each under its address, and of those with
  the same address the one under the greatest key. -/
  portals : ∀ target group address p, r.portal? target group address = some p ↔
    ∃ child, (n.get? target).bind (·.get? group) = some child ∧
      p.address = address ∧ ∃ key, Last (child.entries?.getD ∅) key p

variable {r : DiscoveryRecord}

theorem groups?_of_ofNode? (h : ofNode? n = some r) (target : String) :
    r.groups? target = (n.get? target).map groupsOfNode := by
  obtain ⟨m, hm, rfl⟩ := Option.map_eq_some_iff.1 h
  rw [Node.get?, hm, groups?]
  exact Entries.get?_mapVals ..

theorem group?_of_ofNode? (h : ofNode? n = some r) (target group : String) :
    r.group? target group = ((n.get? target).bind (·.get? group)).bind fun child =>
      if (groupOfNode child).isEmpty then none else some (groupOfNode child) := by
  rw [group?, groups?_of_ofNode? h]
  cases n.get? target with
  | none => rfl
  | some n' => exact (Entries.get?_filterMapVals ..).trans (by rw [← Node.get?_eq]; rfl)

theorem readFrom_of_ofNode? (h : ofNode? n = some r) : r.ReadFrom n where
  targets := by
    obtain ⟨m, hm, rfl⟩ := Option.map_eq_some_iff.1 h
    rw [hm]
    exact Entries.keys_mapVals ..
  groups target group := by
    rw [group?_of_ofNode? h]
    cases (n.get? target).bind (·.get? group) with
    | none => simp
    | some child =>
      simp only [Option.bind_some, Option.some.injEq, exists_eq_left', ← isEmpty_groupOfNode]
      cases (groupOfNode child).isEmpty <;> simp
  portals target group address p := by
    rw [portal?, group?_of_ofNode? h]
    cases (n.get? target).bind (·.get? group) with
    | none => simp
    | some child =>
      have hempty : (if (groupOfNode child).isEmpty then none else some (groupOfNode child)).bind
          (·.get? address) = (groupOfNode child).get? address := by
        split
        · next h => rw [Entries.isEmpty_iff.1 h, Option.bind_none]
        · rfl
      simp only [Option.bind_some, hempty, Option.some.injEq, exists_eq_left', get?_groupOfNode]

/-! ### Canonical records -/

end DiscoveryRecord

/-- Portals that have ports and addresses and are filed under these; there is at least one. -/
structure PortalGroup.Canonical (g : PortalGroup) : Prop where
  inhabited : g.isEmpty = false
  filed : g.All fun address p => p.address = address ∧ p.Canonical

namespace DiscoveryRecord

variable {r : DiscoveryRecord}

/-- The node of a portal group. -/
def groupNode (g : PortalGroup) : Node := .mapping (g.mapVals toNode)

/-- The node of the portal groups of a target. -/
def groupsNode (groups : Keyed PortalGroup) : Node := .mapping (groups.mapVals groupNode)

/-- A record with canonical portal groups only. -/
def Canonical (r : DiscoveryRecord) : Prop :=
  r.targets.All fun _ groups => Entries.All (fun _ => PortalGroup.Canonical) groups

theorem portalAt?_groupNode {g : PortalGroup} (h : g.Canonical) (key : String) :
    portalAt? ((groupNode g).entries?.getD ∅) key = g.get? key := by
  show ((g.mapVals toNode).get? key).bind ofNode? = g.get? key
  rw [Entries.get?_mapVals]
  cases hp : g.get? key with
  | none => rfl
  | some p => exact Portal.ofNode?_toNode (h.filed key p hp).2

theorem groupOfNode_groupNode {g : PortalGroup} (h : g.Canonical) :
    groupOfNode (groupNode g) = g := by
  refine Entries.ext_get? fun address => Option.ext fun p => ?_
  rw [get?_groupOfNode]
  constructor
  · rintro ⟨rfl, key, hread, -⟩
    rw [portalAt?_groupNode h] at hread
    rwa [(h.filed key p hread).1]
  · intro hp
    refine ⟨(h.filed address p hp).1, address, (portalAt?_groupNode h _).trans hp, ?_⟩
    intro key q hlt hq hsame
    -- the key of a portal is its address
    rw [portalAt?_groupNode h] at hq
    rw [(h.filed key q hq).1, (h.filed address p hp).1] at hsame
    exact String.lt_irrefl _ (hsame ▸ hlt)

theorem groupsOfNode_groupsNode {groups : Keyed PortalGroup}
    (h : groups.All fun _ => PortalGroup.Canonical) :
    groupsOfNode (groupsNode groups) = groups := by
  refine Entries.ext_get? fun group => ?_
  show ((groups.mapVals groupNode).filterMapVals _).get? group = groups.get? group
  rw [Entries.get?_filterMapVals, Entries.get?_mapVals]
  cases hg : groups.get? group with
  | none => rfl
  | some g =>
    have hcanonical := h group g hg
    simp only [Option.map_some, Option.bind_some, groupOfNode_groupNode hcanonical,
      hcanonical.inhabited]
    rfl

/-- A canonical record reads back. -/
theorem ofNode?_toNode (h : r.Canonical) : ofNode? (toNode r) = some r := by
  have htargets : (r.targets.mapVals groupsNode).mapVals groupsOfNode = r.targets := by
    refine Entries.ext_get? fun target => ?_
    rw [Entries.get?_mapVals, Entries.get?_mapVals]
    cases hgroups : r.targets.get? target with
    | none => rfl
    | some groups => exact congrArg some (groupsOfNode_groupsNode (h target groups hgroups))
  exact congrArg (fun t => some (⟨t⟩ : DiscoveryRecord)) htargets

/-- A record that is read is canonical. -/
theorem canonical_of_ofNode? (h : ofNode? n = some r) : r.Canonical := by
  obtain ⟨m, -, rfl⟩ := Option.map_eq_some_iff.1 h
  intro target groups hgroups group portals hportals
  rw [Entries.get?_mapVals] at hgroups
  obtain ⟨n', -, rfl⟩ := Option.map_eq_some_iff.1 hgroups
  rw [groupsOfNode, Entries.get?_filterMapVals] at hportals
  obtain ⟨child, -, hchild⟩ := Option.bind_eq_some_iff.1 hportals
  obtain ⟨hinhabited, hgroup⟩ := Option.ite_none_left_eq_some.1 hchild
  obtain rfl := Option.some.inj hgroup
  refine ⟨Bool.eq_false_iff.2 hinhabited, fun address p hp => ?_⟩
  obtain ⟨haddress, key, hlast⟩ := get?_groupOfNode.1 hp
  obtain ⟨n'', -, hread⟩ := Option.bind_eq_some_iff.1 hlast.read
  exact ⟨haddress, Portal.canonical_of_ofNode? hread⟩

/-! ### Records that are built -/

/-- What is put on record. -/
inductive Addition
  | target (name : String)
  | portal (target group : String) (portal : Portal)
  deriving DecidableEq

/-- A record with one thing more. -/
def add (r : DiscoveryRecord) : Addition → DiscoveryRecord
  | .target name => r.addTarget name
  | .portal target group portal => r.addPortal target group portal

/-- The record that some things are put on, one after the other. -/
def ofAdditions (additions : List Addition) : DiscoveryRecord := additions.foldl add empty

/-- A portal that is put on record has an address and a port. -/
def Addition.Canonical : Addition → Prop
  | .target _ => True
  | .portal _ _ p => p.Canonical

theorem canonical_empty : empty.Canonical := Entries.all_empty

theorem Canonical.groups (h : r.Canonical) (target : String) :
    ((r.targets.get? target).getD ∅).All fun _ => PortalGroup.Canonical :=
  Entries.all_getD (h target)

theorem Canonical.add (h : r.Canonical) {a : Addition} (ha : a.Canonical) :
    (r.add a).Canonical := by
  cases a with
  | target name => exact Entries.All.insert h (h.groups name)
  | portal target group p =>
    refine Entries.All.insert h ((h.groups target).insert ⟨?_, ?_⟩)
    · rw [Entries.isEmpty_eq_false_iff]
      exact ⟨p.address, p, by rw [Entries.get?_insert, if_pos rfl]⟩
    · refine Entries.All.insert (Entries.all_getD fun g hg => ?_) ⟨rfl, ha⟩
      exact (h.groups target group g hg).filed

theorem canonical_foldl_add (h : r.Canonical) {additions : List Addition}
    (hadditions : ∀ a ∈ additions, a.Canonical) :
    (additions.foldl DiscoveryRecord.add r).Canonical := by
  induction additions generalizing r with
  | nil => exact h
  | cons a additions ih =>
    exact ih (h.add (hadditions a (List.mem_cons_self ..)))
      fun a' ha' => hadditions a' (List.mem_cons_of_mem _ ha')

/-- A record is read from any mapping and from nothing else, and holds the targets of the mapping
and the portals that can be read there, under their addresses.  What is read reads back, and so does
what is built from portals with addresses and ports. -/
theorem readFrom_readBack (n : Node) {additions : List Addition}
    (hadditions : ∀ a ∈ additions, a.Canonical) :
    (ofNode? n : Option DiscoveryRecord).isSome = n.entries?.isSome ∧
    (∀ r : DiscoveryRecord, ofNode? n = some r → r.ReadFrom n ∧ ofNode? (toNode r) = some r) ∧
    ofNode? (toNode (ofAdditions additions)) = some (ofAdditions additions) :=
  ⟨Option.isSome_map ..,
    fun _ hr => ⟨readFrom_of_ofNode? hr, ofNode?_toNode (canonical_of_ofNode? hr)⟩,
    ofNode?_toNode (canonical_foldl_add canonical_empty hadditions)⟩

/-- Two portals with one address, in a group beside one that is no mapping, and a target that is
none either. -/
def collision : Node :=
  .ofList [("t", .ofList [("1", .ofList [("x", toNode ({ address := "a", port := "1" } : Portal)),
    ("y", toNode ({ address := "a", port := "2" } : Portal)), ("z", .blank)]), ("2", .blank)]),
    ("u", .blank)]

theorem readFrom_readBack_collision :
    (∀ a ∈ [Addition.target "u", .portal "t" "1" { address := "a" }], a.Canonical) ∧
      ∃ r : DiscoveryRecord, ofNode? collision = some r ∧ r.ReadFrom collision ∧
        r.targetNames = ["t", "u"] ∧
        r.portal? "t" "1" "a" = some { address := "a", port := "2" } ∧ r.group? "t" "2" = none ∧
        ofNode? (toNode r) = some r ∧
        ofNode? (toNode (ofAdditions [.target "u", .portal "t" "1" { address := "a" }])) =
          some (ofAdditions [.target "u", .portal "t" "1" { address := "a" }]) := by
  have hadditions : ∀ a ∈ [Addition.target "u", .portal "t" "1" { address := "a" }],
      a.Canonical := by
    intro a ha
    simp only [List.mem_cons, List.not_mem_nil, or_false] at ha
    rcases ha with rfl | rfl
    · trivial
    · exact ⟨by decide, by decide⟩
  obtain ⟨-, hread, hbuilt⟩ := readFrom_readBack collision hadditions
  obtain ⟨hfrom, hback⟩ := hread _ rfl
  exact ⟨hadditions, _, rfl, hfrom, by decide, by decide, by decide, hback, hbuilt⟩

end DiscoveryRecord

end InitiatorStore
