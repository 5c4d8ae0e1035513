/-!
# Maps keyed by strings

`Keyed α` holds values under distinct string keys.  Its entries are kept in ascending order of
their keys (`String.lt`, the order of code points), and the order is part of the type: an entry
carries the proof that its key lies above the keys before it.  So there is one representation for
each finite map, equality of maps is equality of their contents, and every listing comes out
sorted.

* `Entries.get?` looks a key up, `Entries.insert` puts a value under a key in place of any value
  already there, `Entries.erase` drops a key;
* `Entries.toList` lists the entries, `Entries.ofList` builds a map from a list in which a later
  entry wins over an earlier one with the same key;
* `Entries.mapVals`, `Entries.filterMapVals` and `Entries.filter` change the values or select
  the entries and keep the keys;
* `Entries.merge` overlays one map with another;
* `Entries.resolve` is the look-up that may insert a fresh value first.
-/

namespace InitiatorStore

/-- `Above lo k`: the key `k` comes after `lo`, where `none` is below every key. -/
def Above : Option String → String → Prop
  | none, _ => True
  | some l, k => l < k

/-- A key above another key is above whatever that one is above. -/
theorem Above.trans {lo : Option String} {k k' : String} (h : Above lo k) (h' : k < k') :
    Above lo k' := by
  cases lo with
  | none => trivial
  | some l => exact String.lt_trans h h'

/-- Two different keys are in one order or the other. -/
theorem lt_of_not_lt_of_ne {k k' : String} (h : ¬ k < k') (h' : k ≠ k') : k' < k :=
  String.not_le.1 fun hle => h' (String.le_antisymm hle (String.not_lt.1 h))

/-- Entries in ascending order of their keys, all of them above `lo`. -/
inductive Entries (α : Type) : Option String → Type
  | nil {lo : Option String} : Entries α lo
  | cons {lo : Option String} (key : String) (above : Above lo key) (val : α)
      (rest : Entries α (some key)) : Entries α lo

/-- A map from strings to `α`: entries with no bound on their keys. -/
abbrev Keyed (α : Type) := Entries α none

namespace Entries

variable {α β : Type} {lo : Option String}

/-- The map without entries. -/
def empty : Keyed α := .nil

instance : EmptyCollection (Keyed α) := ⟨empty⟩
instance : Inhabited (Keyed α) := ⟨empty⟩

/-- Entries above `k` are above whatever `k` is above. -/
def lower {k : String} (h : Above lo k) : Entries α (some k) → Entries α lo
  | .nil => .nil
  | .cons k' h' v rest => .cons k' (h.trans h') v rest

/-! ### Look-up -/

/-- The value under `k`. -/
def get? (k : String) : {lo : Option String} → Entries α lo → Option α
  | _, .nil => none
  | _, .cons k' _ v rest => if k = k' then some v else rest.get? k

/-- Whether there is a value under `k`. -/
def contains (k : String) (m : Entries α lo) : Bool := (m.get? k).isSome

/-- The entries, in ascending order of their keys. -/
def toList : {lo : Option String} → Entries α lo → List (String × α)
  | _, .nil => []
  | _, .cons k _ v rest => (k, v) :: rest.toList

/-- The keys, in ascending order. -/
def keys (m : Entries α lo) : List String := m.toList.map Prod.fst

/-- The values, in ascending order of their keys. -/
def vals (m : Entries α lo) : List α := m.toList.map Prod.snd

/-- The number of entries. -/
def size (m : Entries α lo) : Nat := m.toList.length

/-- Whether there are no entries. -/
def isEmpty : Entries α lo → Bool
  | .nil => true
  | .cons .. => false

/-! ### Change -/

/-- Puts `v` under `k`, a key that is above the bound. -/
def insertAbove (k : String) (v : α) :
    {lo : Option String} → Above lo k → Entries α lo → Entries α lo
  | _, h, .nil => .cons k h v .nil
  | _, h, .cons k' h' v' rest =>
    if hlt : k < k' then .cons k h v (.cons k' hlt v' rest)
    else if heq : k = k' then .cons k' h' v rest
    else .cons k' h' v' (rest.insertAbove k v (lt_of_not_lt_of_ne hlt heq))

/-- Puts `v` under `k`, in place of any value already there. -/
def insert (k : String) (v : α) (m : Keyed α) : Keyed α := m.insertAbove k v trivial

/-- Puts `v` under `k`, if there is a `v`. -/
def insertSome (k : String) (v : Option α) (m : Keyed α) : Keyed α :=
  match v with
  | some v => m.insert k v
  | none => m

/-- Drops the entry under `k`, if there is one. -/
def erase (k : String) : {lo : Option String} → Entries α lo → Entries α lo
  | _, .nil => .nil
  | _, .cons k' h' v' rest =>
    if k = k' then rest.lower h' else .cons k' h' v' (rest.erase k)

/-- Changes the value under `k` by `f`, if there is one. -/
def modify (k : String) (f : α → α) : {lo : Option String} → Entries α lo → Entries α lo
  | _, .nil => .nil
  | _, .cons k' h' v' rest =>
    if k = k' then .cons k' h' (f v') rest else .cons k' h' v' (rest.modify k f)

/-- The entries of a list; of two with the same key the later wins. -/
def ofList (l : List (String × α)) : Keyed α :=
  l.foldl (fun m e => m.insert e.1 e.2) empty

/-- The entries of `m` and of `upper`; where both have a key, the value is that of `upper`. -/
def merge (m : Keyed α) (upper : Keyed α) : Keyed α :=
  upper.toList.foldl (fun m e => m.insert e.1 e.2) m

/-! ### Change of all values -/

/-- Applies `f` to every value. -/
def mapVals (f : α → β) : {lo : Option String} → Entries α lo → Entries β lo
  | _, .nil => .nil
  | _, .cons k h v rest => .cons k h (f v) (rest.mapVals f)

/-- Applies `f` to every value and drops the entries where it has no result. -/
def filterMapVals (f : α → Option β) : {lo : Option String} → Entries α lo → Entries β lo
  | _, .nil => .nil
  | _, .cons k h v rest =>
    match f v with
    | some w => .cons k h w (rest.filterMapVals f)
    | none => (rest.filterMapVals f).lower h

/-- The entries that satisfy `p`. -/
def filter (p : String → α → Bool) : {lo : Option String} → Entries α lo → Entries α lo
  | _, .nil => .nil
  | _, .cons k h v rest =>
    if p k v then .cons k h v (rest.filter p) else (rest.filter p).lower h

/-! ### Look-up that may insert -/

/-- Looks `k` up; where it is missing and `create` is set, `fresh` is inserted first.  Answers the
value found, whether there was an insertion, and the map afterwards. -/
def resolve (m : Keyed α) (k : String) (create : Bool) (fresh : α) :
    Option α × Bool × Keyed α :=
  match m.get? k with
  | some v => (some v, false, m)
  | none => if create then (some fresh, true, m.insert k fresh) else (none, false, m)

/-! ### Equality -/

/-- Equality of entries with a common bound, decided entry by entry. -/
def decEq [DecidableEq α] : {lo : Option String} → (a b : Entries α lo) → Decidable (a = b)
  | _, .nil, .nil => isTrue rfl
  | _, .nil, .cons .. => isFalse (by simp)
  | _, .cons .., .nil => isFalse (by simp)
  | _, .cons k h v r, .cons k' h' v' r' =>
    if hk : k = k' then by
      subst hk
      exact
        if hv : v = v' then
          match decEq r r' with
          | isTrue hr => isTrue (by rw [hv, hr])
          | isFalse hr => isFalse fun e => hr (by simpa using (Entries.cons.inj e).2.2)
        else isFalse fun e => hv (by simpa using (Entries.cons.inj e).2.1)
    else isFalse fun e => hk (Entries.cons.inj e).1

instance [DecidableEq α] : DecidableEq (Entries α lo) := decEq

end Entries

/-- Looks into an optional slot; where it is empty and `create` is set, it is filled with `fresh`
first.  Answers the contents, whether the slot was filled, and the slot afterwards. -/
def resolveSlot {α : Type} (slot : Option α) (create : Bool) (fresh : α) :
    Option α × Bool × Option α :=
  match slot with
  | some v => (some v, false, some v)
  | none => if create then (some fresh, true, some fresh) else (none, false, none)

end InitiatorStore
