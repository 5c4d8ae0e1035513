import InitiatorStore.Namespace
import InitiatorStore.Record

/-!
# Caches of the namespaces

Each namespace has a `Slot`: the value as far as it has been loaded or created, and whether it has
been changed since preferences were last in agreement with it.  Creating an empty value where there
was none is no change.
-/

namespace InitiatorStore

/-- The cached value of a namespace. -/
structure Slot (α : Type) where
  /-- The value, once it has been loaded or created. -/
  value : Option α := none
  /-- Whether there are changes that have not been written to preferences. -/
  modified : Bool := false
  deriving DecidableEq

namespace Slot

variable {α : Type}

/-- Whether there is a value. -/
def isPresent (s : Slot α) : Bool := s.value.isSome

/-- The slot with a value in any case: where there was none, it is `fresh`. -/
def ensure (s : Slot α) (fresh : α) : Slot α := { s with value := some (s.value.getD fresh) }

/-- The slot with a value in any case if `create` is set. -/
def ensureIf (create : Bool) (s : Slot α) (fresh : α) : Slot α :=
  if create then s.ensure fresh else s

/-- Changes the value, if there is one, without a mark. -/
def modify (f : α → α) (s : Slot α) : Slot α := { s with value := s.value.map f }

/-- Puts another value, or none, in place of the value, without a mark. -/
def replace (value : Option α) (s : Slot α) : Slot α := { s with value }

/-- Marks the slot as changed. -/
def mark (s : Slot α) : Slot α := { s with modified := true }

/-- Marks the slot as changed if `changed` is set. -/
def markIf (changed : Bool) (s : Slot α) : Slot α :=
  { s with modified := s.modified || changed }

/-- Takes the mark off. -/
def settle (s : Slot α) : Slot α := { s with modified := false }

end Slot

/-- The caches of the three namespaces. -/
structure Cache where
  targets : Slot TargetTable := {}
  initiator : Slot InitiatorRecord := {}
  discovery : Slot Document := {}
  deriving DecidableEq

namespace Cache

/-- Whether a namespace has changes that have not been written. -/
def isModified (c : Cache) : Namespace → Bool
  | .targets => c.targets.modified
  | .initiator => c.initiator.modified
  | .discovery => c.discovery.modified

/-- Whether a namespace has a value. -/
def isPresent (c : Cache) : Namespace → Bool
  | .targets => c.targets.isPresent
  | .initiator => c.initiator.isPresent
  | .discovery => c.discovery.isPresent

/-- The namespaces that have changes, in the order in which they are written. -/
def modified (c : Cache) : List Namespace := Namespace.all.filter c.isModified

/-- The node of the value of a namespace. -/
def node? (c : Cache) : Namespace → Option Node
  | .targets => c.targets.value.map toNode
  | .initiator => c.initiator.value.map toNode
  | .discovery => c.discovery.value.map toNode

/-- Puts the value of a node, or none if the node is not one of the namespace, in place of the value
of a namespace. -/
def load (c : Cache) (ns : Namespace) (n : Option Node) : Cache :=
  match ns with
  | .targets => { c with targets := c.targets.replace (n.bind ofNode?) }
  | .initiator => { c with initiator := c.initiator.replace (n.bind ofNode?) }
  | .discovery => { c with discovery := c.discovery.replace (n.bind ofNode?) }

/-- Takes all marks off. -/
def settle (c : Cache) : Cache where
  targets := c.targets.settle
  initiator := c.initiator.settle
  discovery := c.discovery.settle

end Cache

namespace Namespace

/-- The keys of the entries that reading the value of a namespace drops. -/
def dropped (n : Node) : Namespace → List String
  | .targets => NodeCodec.dropped TargetTable n
  | .initiator => NodeCodec.dropped InitiatorRecord n
  | .discovery => NodeCodec.dropped Document n

/-- Whether a node has the shape of the value of a namespace. -/
def accepts (n : Node) : Namespace → Bool
  | .targets => (ofNode? n : Option TargetTable).isSome
  | .initiator => (ofNode? n : Option InitiatorRecord).isSome
  | .discovery => (ofNode? n : Option Document).isSome

end Namespace

end InitiatorStore
