import InitiatorStore.Proofs.Record

/-!
# What reading and writing a record changes

What is kept about targets and about the initiator is read into records and written back as a
whole, so that whatever a record does not hold is lost on the way.  What is lost and what is added
is said here as edits of the mappings themselves, without a record in between: nodes that are no
mappings are dropped where mappings are read (`mappingsOnly`), and blanks are put under certain keys
(`blankUnless`).

`reencodesBy_tidied` is the result: reading and writing is those edits and nothing else, and it
changes nothing the second time.  The look-ups into what a record is written as
(`PortalRecord.get?_entries_ofEntries` and the like) carry it, one level of the tree at a time.
-/

namespace InitiatorStore

/-! ### Edits of mappings -/

/-- A mapping with its entries edited; a string has no entries to edit. -/
def Node.edit? (f : Document → Document) (n : Node) : Option Node :=
  n.entries?.map fun m => .mapping (f m)

/-- Edits the entries of each mapping under a key, and drops what is no mapping. -/
def mappingsOnly (f : Document → Document) (m : Document) : Document :=
  m.filterMapVals (Node.edit? f)

/-- Puts a blank under a key, unless what is there satisfies `p`. -/
def blankUnless (p : Node → Bool) (key : String) (m : Document) : Document :=
  if (m.get? key).any p then m else m.insert key .blank

theorem get?_blankUnless (p : Node → Bool) (key : String) (m : Document) (k : String) :
    (blankUnless p key m).get? k =
      if k = key then some (((m.get? k).filter p).getD .blank) else m.get? k := by
  rw [blankUnless]
  by_cases hk : k = key
  · subst hk
    cases hm : m.get? k with
    | none => simp
    | some n => cases hp : p n <;> simp [hm, hp, Option.filter]
  · split <;> simp [hk]

/-! ### The edits of each record -/

/-- A portal gets a blank for each of its three entries that is missing. -/
def PortalRecord.tidied (m : Document) : Document :=
  blankUnless (fun _ => true) portalKey <| blankUnless (fun _ => true) connectionKey <|
    blankUnless (fun _ => true) authenticationKey m

/-- A target loses a list of portals that is no mapping, and the portals that are no mappings. -/
def TargetRecord.tidied (m : Document) : Document :=
  match (m.get? portalsKey).bind (Node.edit? (mappingsOnly PortalRecord.tidied)) with
  | some portals => m.insert portalsKey portals
  | none => m.erase portalsKey

/-- An initiator gets a blank for a name and for an alias that is missing or no string. -/
def InitiatorRecord.tidied (m : Document) : Document :=
  blankUnless (fun n => n.text?.isSome) nameKey <|
    blankUnless (fun n => n.text?.isSome) aliasKey m

/-! ### Reading and writing -/

/-- What becomes of a node that is read and written. -/
def reencode? (α : Type) [NodeCodec α] (n : Node) : Option Node :=
  (ofNode? (α := α) n).map toNode

/-- A record is written as its edited mapping if every entry is. -/
theorem reencode?_of_get? {α : Type} [NodeCodec α] {f : Document → Document}
    (entries : α → Document) (ofEntries : Document → α)
    (hto : ∀ a : α, toNode a = .mapping (entries a))
    (hof : ∀ n : Node, ofNode? n = n.entries?.map ofEntries)
    (h : ∀ m k, (entries (ofEntries m)).get? k = (f m).get? k) (n : Node) :
    reencode? α n = n.edit? f := by
  rw [reencode?, hof, Node.edit?]
  cases n.entries? with
  | none => rfl
  | some m => exact congrArg some ((hto _).trans (congrArg Node.mapping (Entries.ext_get? (h m))))

theorem reencode?_keyed {α : Type} [NodeCodec α] {f : Document → Document}
    (h : ∀ n, reencode? α n = n.edit? f) (n : Node) :
    reencode? (Keyed α) n = n.edit? (mappingsOnly f) := by
  refine reencode?_of_get? (fun t : Keyed α => t.mapVals toNode)
    (fun m => m.filterMapVals ofNode?) (fun _ => rfl) (fun _ => rfl) (fun m k => ?_) n
  rw [mappingsOnly, Entries.get?_filterMapVals, Entries.get?_mapVals, Entries.get?_filterMapVals]
  cases m.get? k with
  | none => rfl
  | some n => exact h n

theorem reencode?_portalRecord (n : Node) :
    reencode? PortalRecord n = n.edit? PortalRecord.tidied := by
  refine reencode?_of_get? _ _ (fun _ => rfl) (fun _ => rfl) (fun m k => ?_) n
  have hkeys : PortalRecord.portalKey ≠ PortalRecord.connectionKey ∧
      PortalRecord.portalKey ≠ authenticationKey ∧
      PortalRecord.connectionKey ≠ authenticationKey := by decide
  have hall : ∀ n : Option Node, n.filter (fun _ => true) = n := by rintro (_ | _) <;> rfl
  rw [PortalRecord.get?_entries_ofEntries, PortalRecord.tidied]
  simp only [get?_blankUnless, hall, PortalRecord.knownKeys, List.mem_cons, List.not_mem_nil,
    or_false]
  grind

theorem reencode?_targetRecord (n : Node) :
    reencode? TargetRecord n = n.edit? TargetRecord.tidied := by
  refine reencode?_of_get? _ _ (fun _ => rfl) (fun _ => rfl) (fun m k => ?_) n
  have hportals : ((m.get? TargetRecord.portalsKey).bind (ofNode? (α := PortalTable))).map toNode =
      (m.get? TargetRecord.portalsKey).bind (Node.edit? (mappingsOnly PortalRecord.tidied)) := by
    rw [Option.map_bind]
    exact congrArg _ (funext (reencode?_keyed reencode?_portalRecord))
  rw [TargetRecord.get?_entries_ofEntries, TargetRecord.tidied]
  split
  · next hk =>
    rw [hk, hportals]
    split
    · next h => rw [h, Entries.get?_insert, if_pos rfl]
    · next h => rw [h, Entries.get?_erase, if_pos rfl]
  · next hk =>
    split
    · rw [Entries.get?_insert, if_neg hk]
    · rw [Entries.get?_erase, if_neg hk]

theorem reencode?_initiatorRecord (n : Node) :
    reencode? InitiatorRecord n = n.edit? InitiatorRecord.tidied := by
  refine reencode?_of_get? _ _ (fun _ => rfl) (fun _ => rfl) (fun m k => ?_) n
  have hkeys : InitiatorRecord.nameKey ≠ InitiatorRecord.aliasKey := by decide
  have hstring : ∀ n : Option Node, Node.scalar ((n.bind Node.text?).getD "") =
      (n.filter fun n => n.text?.isSome).getD .blank := by
    rintro (_ | _ | _) <;> rfl
  rw [InitiatorRecord.get?_entries_ofEntries, InitiatorRecord.tidied, hstring]
  simp only [get?_blankUnless, InitiatorRecord.knownKeys, List.mem_cons, List.not_mem_nil, or_false]
  grind

theorem readsBack_of_ofNode? {n : Node} {t : TargetTable} (h : ofNode? n = some t) :
    ReadsBack t := by
  obtain ⟨m, -, rfl⟩ := Option.map_eq_some_iff.1 h
  refine Entries.readsBack fun name r hr => ?_
  rw [Entries.get?_filterMapVals] at hr
  obtain ⟨n', -, hn'⟩ := Option.bind_eq_some_iff.1 hr
  obtain ⟨m', -, rfl⟩ := Option.map_eq_some_iff.1 hn'
  exact (TargetRecord.tidy_ofEntries m').readsBack

/-- Reading and writing values of a type is an edit of the entries of a mapping. -/
structure ReencodesBy (α : Type) [NodeCodec α] (f : Document → Document) : Prop where
  /-- Mappings are read, and nothing else is. -/
  isSome_ofNode? : ∀ n, (ofNode? n : Option α).isSome = n.entries?.isSome
  /-- A mapping that is read and written is the edited mapping. -/
  reencode?_mapping : ∀ m, reencode? α (.mapping m) = some (.mapping (f m))
  /-- What was read and written once stays as it is. -/
  reencode?_reencode? : ∀ n, (reencode? α n).bind (reencode? α) = reencode? α n

theorem reencodesBy_of_readsBack {α : Type} [NodeCodec α] {f : Document → Document}
    (h : ∀ n, reencode? α n = n.edit? f)
    (hback : ∀ (n : Node) (a : α), ofNode? n = some a → ReadsBack a) : ReencodesBy α f where
  isSome_ofNode? n := by
    have hn : (reencode? α n).isSome = (n.edit? f).isSome := congrArg Option.isSome (h n)
    simpa only [reencode?, Node.edit?, Option.isSome_map] using hn
  reencode?_mapping m := h (.mapping m)
  reencode?_reencode? n := by
    rw [reencode?]
    cases ha : ofNode? (α := α) n with
    | none => rfl
    | some a => exact hback n a ha

/-- Reading and writing the targets edits their mapping as said above and does nothing else,
whatever the mapping holds, and likewise for the initiator. -/
theorem reencodesBy_tidied :
    ReencodesBy TargetTable (mappingsOnly TargetRecord.tidied) ∧
      ReencodesBy InitiatorRecord InitiatorRecord.tidied :=
  ⟨reencodesBy_of_readsBack (reencode?_keyed reencode?_targetRecord)
      fun _ _ => readsBack_of_ofNode?,
    reencodesBy_of_readsBack reencode?_initiatorRecord fun _ r _ => r.readsBack⟩

example :
    reencode? TargetTable (.ofList [("s", .blank), ("t", .ofList [("Authentication", .ofList []),
      ("Portals", .ofList [("a", .ofList [("Authentication", .scalar "odd")]), ("b", .blank)])])]) =
    some (.ofList [("t", .ofList [("Authentication", .ofList []), ("Portals", .ofList [("a", .ofList
      [("Authentication", .scalar "odd"), ("Connection Configuration", .blank),
        ("Portal Data", .blank)])])])]) := by
  decide

end InitiatorStore
