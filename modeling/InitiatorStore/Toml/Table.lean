import InitiatorStore.Keyed.Basic

/-!
# TOML tables

A TOML document is a table: values under keys, some of them tables again.  What a later line may
still do to a table depends on how the table came about, so a table under construction remembers
three things: whether it was written inline, whether it is only implied by a longer name, and
whether that name was a dotted key.

* A dotted key may only go on through tables that are themselves implied (`Table.visit?`).
* A key is defined at most once, and a table made by dotted keys only grows by dotted keys
  (`Table.define?`).
* A header may name a table that so far is only implied by longer headers, and no other that is
  there (`Table.open?`).
* A header of an array of tables adds a table to the array (`Table.openLast?`, `Table.close?`).
-/

namespace InitiatorStore.Toml

/-- How a table came about. -/
structure TableKind where
  /-- It was written inline, as a value. -/
  inline : Bool := false
  /-- It is implied by a longer name. -/
  implicit : Bool := false
  /-- The longer name was a dotted key. -/
  dotted : Bool := false
  deriving DecidableEq

/-- A value of a TOML document.  No use is made of what a float or a date is. -/
inductive Item
  | text (s : String)
  | integer (n : Int)
  | float
  | boolean (b : Bool)
  | datetime
  | array (items : List Item)
  | table (kind : TableKind) (entries : Entries Item none)
  /-- An array of tables, grown by headers. -/
  | tables (items : List Item)

/-- A table. -/
structure Table where
  kind : TableKind := {}
  entries : Keyed Item := ∅

namespace Table

/-- A table as a value. -/
def item (t : Table) : Item := .table t.kind t.entries

/-- The table with a value under a key. -/
def insert (t : Table) (key : String) (v : Item) : Table :=
  { t with entries := t.entries.insert key v }

/-- The name of a table or value: what leads to it, and its own key. -/
abbrev Name := List String × String

/-- Changes the table that a path leads to, and makes the tables on the way that are missing.
`kind` is that of the tables made; a dotted path may not go through a table that has a definition
of its own.  Through an array of tables it goes to the last one. -/
def visit? {β : Type} (kind : TableKind) (f : Table → Option (β × Table)) :
    List String → Table → Option (β × Table)
  | [], t => f t
  | key :: path, t =>
    match t.entries.get? key with
    | none => (visit? kind f path { kind }).map fun r => (r.1, t.insert key r.2.item)
    | some (.table k entries) =>
      if k.inline ≠ kind.inline || (kind.dotted && !k.implicit) then none
      else (visit? kind f path ⟨k, entries⟩).map fun r => (r.1, t.insert key r.2.item)
    | some (.tables items) =>
      match items.getLast? with
      | some (.table k entries) =>
        (visit? kind f path ⟨k, entries⟩).map fun r =>
          (r.1, t.insert key (.tables (items.dropLast ++ [r.2.item])))
      | _ => none
    | some _ => none

/-- The kind of the tables that a dotted key implies. -/
def dottedKind (inline : Bool) : TableKind := ⟨inline, true, true⟩

/-- The kind of the tables that a header implies. -/
def headerKind : TableKind := ⟨false, true, false⟩

/-- Defines the value of a key, dotted or not. -/
def define? (t : Table) (name : Name) (v : Item) : Option Table :=
  (visit? (dottedKind t.kind.inline) (fun parent =>
    if parent.kind.dotted = name.1.isEmpty || (parent.entries.contains name.2) then none
    else some ((), parent.insert name.2 v)) name.1 t).map (·.2)

/-- Takes out the table that a header names: one that is implied by longer headers, or a new one. -/
def open? (t : Table) (name : Name) : Option (Table × Table) :=
  visit? headerKind (fun parent =>
    match parent.entries.get? name.2 with
    | none => some ({}, parent)
    | some (.table k entries) =>
      if k.implicit && !k.dotted && !k.inline then
        some (⟨{}, entries⟩, { parent with entries := parent.entries.erase name.2 })
      else none
    | some _ => none) name.1 t

/-- Makes sure that a header names an array of tables, or nothing yet. -/
def openLast? (t : Table) (name : Name) : Option Table :=
  (visit? headerKind (fun parent =>
    match parent.entries.get? name.2 with
    | none => some ((), parent.insert name.2 (.tables []))
    | some (.tables _) => some ((), parent)
    | some _ => none) name.1 t).map (·.2)

/-- Puts a table that a header has opened into its place. -/
def close? (t : Table) (name : Name) (last : Bool) (v : Table) : Option Table :=
  (visit? headerKind (fun parent =>
    if last then
      match parent.entries.get? name.2 with
      | some (.tables items) => some ((), parent.insert name.2 (.tables (items ++ [v.item])))
      | _ => none
    else some ((), parent.insert name.2 v.item)) name.1 t).map (·.2)

end Table

/-! ### Documents under construction -/

/-- A document as far as it has been read. -/
structure Draft where
  /-- All tables but the one that is open. -/
  root : Table := {}
  /-- The open table. -/
  current : Table := {}
  /-- The name of the open table and whether it goes into an array of tables; `none` while the open
  table is the document itself. -/
  header : Option (Table.Name × Bool) := none

namespace Draft

/-- Puts the open table into its place. -/
def close? (d : Draft) : Option Table :=
  match d.header with
  | none => some d.current
  | some (name, last) => d.root.close? name last d.current

/-- Goes on with the table of a header. -/
def open? (d : Draft) (name : Table.Name) (last : Bool) : Option Draft := do
  let root ← d.close?
  if last then
    let root ← root.openLast? name
    return { root, current := {}, header := some (name, true) }
  else
    let (current, root) ← root.open? name
    return { root, current, header := some (name, false) }

/-- Defines a value in the open table. -/
def define? (d : Draft) (name : Table.Name) (v : Item) : Option Draft :=
  (d.current.define? name v).map fun current => { d with current }

end Draft

end InitiatorStore.Toml
