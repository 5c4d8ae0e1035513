import InitiatorStore.Proofs.Store.Filing
import InitiatorStore.Proofs.World.Run

/-!
# Keys and contents among several stores

What is looked up under an address is a portal with that address, and what is looked up under a name
is a target with that name, in each of any number of stores and after any events, as long as nobody
else writes to their medium and it holds no document at first (`World.filed_under_own_keys`).  A
foreign value may file anything under any key; a discovery record files portals under their own
addresses even then, since it is made anew whenever it is read.

One event keeps the caches of all stores and all documents of the medium filed (`World.Filed.step`).
-/

namespace InitiatorStore

/-- A medium without a document, or with the empty one. -/
def Medium.Empty (m : Medium) : Prop := ∀ d, m.Holds d → d = ∅

theorem Medium.Empty.filed {m : Medium} (h : m.Empty) : m.Filed := by
  intro d hd
  rw [h d hd]
  exact filedValue_none

namespace World

/-- Targets and portals are filed under their own keys, in the medium and in every store. -/
structure Filed (w : World) : Prop where
  medium : w.medium.Filed
  stores : ∀ i, (w.seat i).store.cache.targets.Filed

variable {w : World}

theorem filed_start {medium : Medium} (h : medium.Filed) (vault : Vault) (removal : Removal) :
    (start medium vault removal).Filed where
  medium := h
  stores i := by
    cases i with
    | zero => nofun
    | succ i => nofun

theorem Filed.step (h : w.Filed) (hw : w.Sound) {e : WorldEvent} (he : e.isForeign = false) :
    (w.step e).2.1.Filed where
  medium := by
    cases e with
    | act i op => exact (op.filed_run (hw i) (h.stores i) h.medium _).1
    | «open» removal own =>
      rw [step_open, medium_openStore]
      exact h.medium
    | vaultFault fault => exact h.medium
    | put | change => cases he
  stores i := by
    rcases w.store_step i e with ⟨op, -, -, hstore⟩ | ⟨-, hcache⟩
    · rw [hstore]
      exact (op.filed_run (hw i) (h.stores i) h.medium _).2
    · rw [hcache]
      exact h.stores i

theorem Filed.run (h : w.Filed) (hw : w.Sound) {es : List WorldEvent}
    (hes : ∀ e ∈ es, e.isForeign = false) : (w.run es).Filed := by
  induction es generalizing w with
  | nil => exact h
  | cons e es ih =>
    have he := hes e (List.mem_cons_self ..)
    exact ih (h.step hw he) (hw.step e) fun e' he' => hes e' (List.mem_cons_of_mem _ he')

/-- Stores that start on an empty medium and have it for themselves answer every look-up of a portal
or a target with one that has the address or the name that was asked for.  And a discovery record
that is read has its portals under their own addresses, whatever it was read from. -/
theorem filed_under_own_keys (medium : Medium) (vault : Vault) (removal : Removal)
    (es : List WorldEvent) :
    (medium.Empty → (∀ e ∈ es, e.isForeign = false) → ∀ i,
      (∀ name address p, (((start medium vault removal).run es).seat i).store.portalData? name
        address = some p → p.address = address) ∧
      ∀ name t, (((start medium vault removal).run es).seat i).store.targetData? name = some t →
        t.name = name) ∧
    ∀ (s : Store) (r : DiscoveryRecord), s.discovery? = some r → r.Filed := by
  refine ⟨fun hempty hes i => ?_, fun s r hr => ?_⟩
  · have hsound := sound_start medium vault removal
    have hfiled := (filed_start hempty.filed vault removal).run hsound hes
    refine ⟨fun name address p hp => ?_, fun name t ht => ?_⟩
    · obtain ⟨r, hr, hp⟩ := Option.bind_eq_some_iff.1 hp
      exact (hfiled.stores i).portal? hr p hp
    · obtain ⟨r, hr, ht⟩ := Option.bind_eq_some_iff.1 ht
      exact ((hfiled.stores i).target? hr).target t ht
  · obtain ⟨d, -, hd⟩ := Option.bind_eq_some_iff.1 hr
    exact DiscoveryRecord.filed_of_ofNode? hd

/-- A portal that one store sets and another one reads from the medium. -/
def handedOver : List WorldEvent :=
  [.open .strict none, .act 0 (.setPortal "t" { address := "10.0.0.1" }), .act 0 .synchronize,
    .act 1 .synchronize]

theorem filed_under_own_keys_handedOver :
    Medium.memory.Empty ∧ (∀ e ∈ handedOver, e.isForeign = false) ∧
      ∃ p, (((start .memory {} .compat).run handedOver).seat 1).store.portalData? "t" "10.0.0.1" =
        some p ∧ p.address = "10.0.0.1" := by
  have hempty : Medium.memory.Empty := fun _ hd => hd
  have hes : ∀ e ∈ handedOver, e.isForeign = false := by decide
  obtain ⟨hportal, -⟩ := (filed_under_own_keys .memory {} .compat handedOver).1 hempty hes 1
  have hfound : ((((start .memory {} .compat).run handedOver).seat 1).store.portalData? "t"
      "10.0.0.1").isSome = true := by
    decide
  obtain ⟨p, hp⟩ := Option.isSome_iff_exists.1 hfound
  exact ⟨hempty, hes, p, hp, hportal "t" "10.0.0.1" p hp⟩

-- a foreign value brings in a portal under an address that is not its own
example :
    let foreign : Node := .ofList [("t", .ofList [("Portals", .ofList [("a", .ofList
      [("Portal Data", .ofList [("Address", .scalar "b")])])])])]
    (((start .memory {} .compat).run [.put "Target Nodes" foreign, .act 0 .synchronize]).seat
      0).store.portalData? "t" "a" = some { address := "b" } := by
  decide

end World

end InitiatorStore
