import InitiatorStore.Domain.Discovery
import InitiatorStore.Domain.Target
import InitiatorStore.Keyed.Lemmas

/-!
# What things are filed under

A target carries the name under which it is filed, and a portal its address.  Neither changes when
it is written and read again (`Target.name_of_ofNode?_toNode`, `Portal.address_of_ofNode?_toNode`).
In a discovery record that has been read each portal is filed under its own address, whatever keys
it had in the node (`DiscoveryRecord.filed_of_ofNode?`).
-/

namespace InitiatorStore

variable {n : Node}

theorem Target.getText?_nameKey (t : Target) : (toNode t).getText? nameKey = some t.name := by
  have hkeys : nameKey ≠ aliasKey := by decide
  simp [Node.getText?, Node.get?, Node.entries?, Node.text?, toNode, hkeys]

theorem Target.name_of_ofNode?_toNode {t u : Target} (h : ofNode? (toNode t) = some u) :
    u.name = t.name := by
  obtain ⟨name, hread, rfl⟩ := Option.map_eq_some_iff.1 h
  rw [t.getText?_nameKey, Option.filter_eq_some_iff] at hread
  exact (Option.some.inj hread.1).symm

theorem Portal.getText?_addressKey (p : Portal) :
    (toNode p).getText? addressKey = some p.address := by
  have hport : addressKey ≠ portKey := by decide
  have hinterface : addressKey ≠ interfaceKey := by decide
  simp [Node.getText?, Node.get?, Node.entries?, Node.text?, toNode, Node.ofList, Entries.ofList,
    hport, hinterface]

theorem Portal.address_of_ofNode?_toNode {p q : Portal} (h : ofNode? (toNode p) = some q) :
    q.address = p.address := by
  obtain ⟨address, hread, rfl⟩ := Option.map_eq_some_iff.1 h
  rw [p.getText?_addressKey, Option.filter_eq_some_iff] at hread
  exact (Option.some.inj hread.1).symm

namespace DiscoveryRecord

/-- Each portal on record is filed under its own address. -/
def Filed (r : DiscoveryRecord) : Prop :=
  ∀ target groups group portals address p, r.groups? target = some groups →
    Entries.get? group groups = some portals → Entries.get? address portals = some p →
    p.address = address

theorem address_of_get?_groupOfNode {address : String} {p : Portal}
    (h : (groupOfNode n).get? address = some p) : p.address = address := by
  have hmem := Entries.mem_of_get?_ofList h
  rw [List.mem_map] at hmem
  obtain ⟨q, -, hq⟩ := hmem
  rw [← (Prod.mk.inj hq).2]
  exact (Prod.mk.inj hq).1

theorem filed_of_ofNode? {r : DiscoveryRecord} (h : ofNode? n = some r) : r.Filed := by
  obtain ⟨m, -, rfl⟩ := Option.map_eq_some_iff.1 h
  intro target groups group portals address p hgroups hportals hp
  rw [groups?, Entries.get?_mapVals] at hgroups
  obtain ⟨n', -, rfl⟩ := Option.map_eq_some_iff.1 hgroups
  rw [groupsOfNode, Entries.get?_filterMapVals] at hportals
  obtain ⟨child, -, hchild⟩ := Option.bind_eq_some_iff.1 hportals
  -- a group is kept as it was read, unless it is empty
  obtain ⟨-, hgroup⟩ := Option.ite_none_left_eq_some.1 hchild
  rw [← Option.some.inj hgroup] at hp
  exact address_of_get?_groupOfNode hp

end DiscoveryRecord

end InitiatorStore
