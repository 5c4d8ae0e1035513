import InitiatorStore.Proofs.Depth
import InitiatorStore.Proofs.Json.Tokens
import InitiatorStore.Text.Blank

/-!
# Reading what has been written

The text of a node reads back as that node exactly when no more than `Node.maxDepth` mappings nest
in it (`Node.read?_pretty`), and a text that reads at all spells a node within that bound
(`Node.depth_le_of_read?`).  For documents both bounds count the mapping of the document itself.
-/

namespace InitiatorStore

namespace Node

open Json

/-! ### The JSON value of a node -/

mutual

/-- The JSON value that a node is written as. -/
def toJson : Node → Json
  | .scalar s => .text (some s)
  | .mapping m => .object (members m)

/-- The members that the entries of a mapping are written as. -/
def members : {lo : Option String} → Entries Node lo → List (Option String × Json)
  | _, .nil => []
  | _, .cons k _ n rest => (some k, n.toJson) :: members rest

end

mutual

/-- Where a value is due, the tokens of a node complete its JSON value. -/
theorem run?_tokens (outer : List Open) (ts : List Token) : (n : Node) →
    (Reader.value outer).run? (n.tokens ++ ts) = (Reader.complete n.toJson outer).run? ts
  | .scalar s => by
    rw [tokens, toJson]
    rfl
  | .mapping .nil => by
    rw [tokens, toJson, members]
    rfl
  | .mapping (.cons k _ n rest) => by
    have hopen (us : List Token) :
        (Reader.value outer).run? (.openBrace :: .text (some k) :: .colon :: us) =
          (Reader.value (.object [] (some k) :: outer)).run? us := rfl
    simp only [tokens, toJson, members, List.cons_append, List.append_assoc]
    rw [hopen, run?_tokens _ _ n, Reader.complete, run?_tokensRest _ _ _ rest]
    rfl

/-- After a member of an object, the tokens of the entries that remain complete the object. -/
theorem run?_tokensRest (outer : List Open) (ts : List Token)
    (done : List (Option String × Json)) : {lo : Option String} → (m : Entries Node lo) →
    (Reader.afterMember done outer).run? (tokensRest m ++ ts) =
      (Reader.complete (.object (done.reverse ++ members m)) outer).run? ts
  | _, .nil => by
    rw [tokensRest, members, List.append_nil]
    rfl
  | _, .cons k _ n rest => by
    have hcomma (us : List Token) :
        (Reader.afterMember done outer).run? (.comma :: .text (some k) :: .colon :: us) =
          (Reader.value (.object done (some k) :: outer)).run? us := rfl
    simp only [tokensRest, members, List.cons_append, List.append_assoc]
    rw [hcomma, run?_tokens _ _ n, Reader.complete, run?_tokensRest _ _ _ rest]
    simp

end

theorem ofTokens?_tokens (n : Node) : ofTokens? n.tokens = some n.toJson := by
  have h := run?_tokens [] [] n
  rw [List.append_nil] at h
  rw [ofTokens?, h]
  rfl

/-! ### From the JSON value to the node -/

mutual

/-- The JSON value of a node is read as the node if the node does not nest too deep. -/
theorem ofJson?_toJson (depth : Nat) : (n : Node) →
    ofJson? depth n.toJson = if n.depth ≤ depth then some n else none
  | .scalar s => by
    rw [toJson, ofJson?]
    rfl
  | .mapping m => by
    rw [toJson]
    cases depth with
    | zero => simp [ofJson?, Node.depth]
    | succ depth =>
      -- the members come one after the other, and put together they are the entries again
      have hm : m.toList.foldl (fun m e => m.insert e.1 e.2) ∅ = m := Entries.empty_merge m
      rw [ofJson?, ofMembers?_members depth ∅ m, hm, Node.depth]
      by_cases h : entriesDepth m ≤ depth
      · rw [if_pos h, if_pos (Nat.succ_le_succ h)]
        rfl
      · rw [if_neg h, if_neg (fun h' => h (Nat.le_of_succ_le_succ h'))]
        rfl

theorem ofMembers?_members (depth : Nat) (acc : Document) : {lo : Option String} →
    (m : Entries Node lo) → ofMembers? depth acc (members m) =
      if entriesDepth m ≤ depth then some (m.toList.foldl (fun m e => m.insert e.1 e.2) acc)
      else none
  | _, .nil => by
    rw [members, ofMembers?]
    rfl
  | _, .cons k _ n rest => by
    rw [members, ofMembers?, ofMember?, Option.bind_some, ofJson?_toJson depth n, entriesDepth]
    by_cases hn : n.depth ≤ depth
    · have hmax : max n.depth (entriesDepth rest) ≤ depth ↔ entriesDepth rest ≤ depth :=
        ⟨fun h => Nat.le_trans (Nat.le_max_right ..) h, fun h => Nat.max_le.2 ⟨hn, h⟩⟩
      rw [if_pos hn, Option.map_some, Option.bind_some,
        ofMembers?_members depth (acc.insert k n) rest]
      simp only [hmax, Entries.toList, List.foldl_cons]
    · have hmax : ¬ max n.depth (entriesDepth rest) ≤ depth :=
        fun h => hn (Nat.le_trans (Nat.le_max_left ..) h)
      rw [if_neg hn, if_neg hmax]
      rfl

end

/-! ### Every node that is read -/

mutual

/-- A node that is read nests no deeper than the bound of the reading. -/
theorem depth_le_of_ofJson? {depth : Nat} : (j : Json) → {n : Node} →
    ofJson? depth j = some n → n.depth ≤ depth
  | .text s, n, h => by
    rw [ofJson?] at h
    obtain ⟨t, -, rfl⟩ := Option.map_eq_some_iff.1 h
    exact Nat.zero_le depth
  | .atom, _, h => by simp [ofJson?] at h
  | .array _, _, h => by simp [ofJson?] at h
  | .object ms, n, h => by
    cases depth with
    | zero => simp [ofJson?] at h
    | succ depth =>
      rw [ofJson?] at h
      obtain ⟨m, hm, rfl⟩ := Option.map_eq_some_iff.1 h
      have hempty : entriesDepth (∅ : Document) ≤ depth := Nat.zero_le depth
      rw [Node.depth]
      exact Nat.succ_le_succ (entriesDepth_le_of_ofMembers? ms hempty hm)

theorem entriesDepth_le_of_ofMembers? {depth : Nat} : (ms : List (Option String × Json)) →
    {acc m : Document} → entriesDepth acc ≤ depth → ofMembers? depth acc ms = some m →
    entriesDepth m ≤ depth
  | [], acc, m, hacc, h => by
    rw [ofMembers?] at h
    exact Option.some.inj h ▸ hacc
  | (none, _) :: _, _, _, _, h => by simp [ofMembers?, ofMember?] at h
  | (some k, j) :: rest, acc, m, hacc, h => by
    rw [ofMembers?, ofMember?, Option.bind_some] at h
    obtain ⟨e, he, hrest⟩ := Option.bind_eq_some_iff.1 h
    obtain ⟨n, hn, rfl⟩ := Option.map_eq_some_iff.1 he
    have hn : n.depth ≤ depth := depth_le_of_ofJson? j hn
    exact entriesDepth_le_of_ofMembers? rest (entriesDepth_insert_le hn hacc) hrest

end

/-! ### Texts -/

/-- Writing in any layout and reading back, with the bound on what is read. -/
theorem read?_write {l : Layout} (hl : l.Spaced) (n : Node) :
    read? (String.ofList (n.write l 0)) = if n.depth ≤ maxDepth then some n else none := by
  rw [read?, Json.read?, String.toList_ofList, tokens?_write hl, Option.bind_some,
    ofTokens?_tokens, Option.bind_some, ofJson?_toJson]

theorem read?_pretty (n : Node) :
    read? n.pretty = if n.depth ≤ maxDepth then some n else none :=
  read?_write Layout.spaced_pretty n

/-- A text that reads spells a node within the bound. -/
theorem depth_le_of_read? {s : String} {n : Node} (h : read? s = some n) :
    n.depth ≤ maxDepth := by
  obtain ⟨j, -, hj⟩ := Option.bind_eq_some_iff.1 h
  exact depth_le_of_ofJson? j hj

end Node

namespace Document

theorem read?_pretty {d : Document} (h : (Node.mapping d).depth ≤ Node.maxDepth) :
    read? (pretty d) = some d := by
  rw [read?, pretty, Node.read?_pretty, if_pos h]
  rfl

/-- A document that nests too deep is written, but its text does not read. -/
theorem read?_pretty_of_lt {d : Document} (h : Node.maxDepth < (Node.mapping d).depth) :
    read? (pretty d) = none := by
  rw [read?, pretty, Node.read?_pretty, if_neg (Nat.not_le.2 h)]
  rfl

/-- The text of a document reads as no other. -/
theorem eq_of_read?_pretty {d d' : Document} (h : read? (pretty d) = some d') : d' = d := by
  rcases Nat.lt_or_ge Node.maxDepth (Node.mapping d).depth with hdepth | hdepth
  · rw [read?_pretty_of_lt hdepth] at h
    cases h
  · rw [read?_pretty hdepth] at h
    exact (Option.some.inj h).symm

theorem depth_le_of_read? {s : String} {d : Document} (h : read? s = some d) :
    (Node.mapping d).depth ≤ Node.maxDepth := by
  obtain ⟨n, hn, hd⟩ := Option.bind_eq_some_iff.1 h
  cases n with
  | scalar t => cases hd
  | mapping m => exact Option.some.inj hd ▸ Node.depth_le_of_read? hn

/-- The text of a document begins with a brace, so it is not blank. -/
theorem isBlank_pretty (d : Document) : Text.isBlank (pretty d) = false := by
  have hbrace : Text.isBlankChar '\x7b' = false := by decide
  cases d <;> simp [Text.isBlank, pretty, Node.pretty, Node.write, hbrace]

end Document

end InitiatorStore
