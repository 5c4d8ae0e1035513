import InitiatorStore.Keyed.Basic

/-!
# Nodes

A preference value is a `Node`: a string, or a mapping from keys to further nodes.  Every typed
value of the library is written to preferences as a node and read back from one, through a
`NodeCodec`.

A codec has three parts.  `toNode` and `ofNode?` write and read.  `dropped` tells what reading
leaves out: a mapping of entries is read entry by entry, an entry that does not read is dropped
rather than failing the whole, and `dropped` lists the keys of those entries in the order in which
they are met.
-/

namespace InitiatorStore

/-- A string, or a mapping from keys to nodes. -/
inductive Node
  | scalar (text : String)
  | mapping (entries : Entries Node none)

/-- What a preference scope holds: a node for each of its keys. -/
abbrev Document := Keyed Node

namespace Node

instance : Inhabited Node := ⟨.scalar ""⟩

/-- The empty string, which stands for a leaf that has not been written. -/
def blank : Node := .scalar ""

/-- The mapping of a list of entries; of two with the same key the later wins. -/
def ofList (entries : List (String × Node)) : Node := .mapping (Entries.ofList entries)

/-! ### Equality -/

mutual

/-- Equality of nodes, decided along their structure. -/
def decEq : (a b : Node) → Decidable (a = b)
  | .scalar s, .scalar t => decidable_of_iff (s = t) ⟨fun h => h ▸ rfl, Node.scalar.inj⟩
  | .scalar _, .mapping _ => isFalse (by simp)
  | .mapping _, .scalar _ => isFalse (by simp)
  | .mapping a, .mapping b =>
    match decEqEntries a b with
    | isTrue h => isTrue (h ▸ rfl)
    | isFalse h => isFalse fun e => h (Node.mapping.inj e)

/-- Equality of entries that hold nodes. -/
def decEqEntries : {lo : Option String} → (a b : Entries Node lo) → Decidable (a = b)
  | _, .nil, .nil => isTrue rfl
  | _, .nil, .cons .. => isFalse (by simp)
  | _, .cons .., .nil => isFalse (by simp)
  | _, .cons k h v r, .cons k' h' v' r' =>
    if hk : k = k' then by
      subst hk
      exact
        match decEq v v', decEqEntries r r' with
        | isTrue hv, isTrue hr => isTrue (by rw [hv, hr])
        | isFalse hv, _ => isFalse fun e => hv (by simpa using (Entries.cons.inj e).2.1)
        | _, isFalse hr => isFalse fun e => hr (by simpa using (Entries.cons.inj e).2.2)
    else isFalse fun e => hk (Entries.cons.inj e).1

end

instance : DecidableEq Node := decEq

/-! ### Parts of a node -/

/-- The text of a string node. -/
def text? : Node → Option String
  | .scalar s => some s
  | .mapping _ => none

/-- The entries of a mapping. -/
def entries? : Node → Option Document
  | .scalar _ => none
  | .mapping m => some m

/-- The child of a mapping under a key. -/
def get? (n : Node) (key : String) : Option Node := n.entries?.bind (·.get? key)

/-- The text of the child of a mapping under a key, if that child is a string. -/
def getText? (n : Node) (key : String) : Option String := (n.get? key).bind text?

/-- Whether a node is the empty string or the empty mapping. -/
def isEmpty : Node → Bool
  | .scalar s => s.isEmpty
  | .mapping m => Entries.isEmpty m

mutual

/-- How deep mappings nest in a node; a string has depth 0. -/
def depth : Node → Nat
  | .scalar _ => 0
  | .mapping m => entriesDepth m + 1

/-- The greatest depth of the nodes under some entries. -/
def entriesDepth : {lo : Option String} → Entries Node lo → Nat
  | _, .nil => 0
  | _, .cons _ _ n rest => max n.depth (entriesDepth rest)

end

end Node

/-! ### Codecs -/

/-- Reading and writing of values as nodes. -/
class NodeCodec (α : Type) where
  /-- The node of a value. -/
  toNode : α → Node
  /-- The value of a node, if the node has the shape of one. -/
  ofNode? : Node → Option α
  /-- The keys of the entries that reading a node leaves out. -/
  dropped : Node → List String := fun _ => []

export NodeCodec (toNode ofNode? dropped)

/-- A node is its own encoding. -/
instance : NodeCodec Node where
  toNode n := n
  ofNode? n := some n

/-- A keyed collection is a mapping of the encodings of its values.  On reading, an entry that does
not decode is dropped. -/
instance {α : Type} [NodeCodec α] : NodeCodec (Keyed α) where
  toNode m := .mapping (m.mapVals toNode)
  ofNode? n := n.entries?.map (·.filterMapVals ofNode?)
  dropped n :=
    match n with
    | .scalar _ => []
    | .mapping m => m.toList.flatMap fun e =>
        dropped α e.2 ++ if (ofNode? e.2 : Option α).isSome then [] else [e.1]

end InitiatorStore
