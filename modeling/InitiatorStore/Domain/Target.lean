import InitiatorStore.Node

/-!
# Targets

A target is a remote storage node: its qualified name, and an alias if it has one.  A node without
a name, or with an empty one, is no target; an empty alias reads as none.
-/

namespace InitiatorStore

/-- A remote target. -/
structure Target where
  /-- The qualified name. -/
  name : String
  /-- A name for people to read. -/
  alias? : Option String := none
  deriving DecidableEq

namespace Target

/-- The key of a target's name. -/
def nameKey : String := "Name"

/-- The key of a target's alias. -/
def aliasKey : String := "Alias"

instance : NodeCodec Target where
  toNode t :=
    .mapping ((Entries.empty.insert nameKey (.scalar t.name)).insertSome aliasKey
      (t.alias?.map .scalar))
  ofNode? n :=
    ((n.getText? nameKey).filter (· ≠ "")).map fun name =>
      { name, alias? := (n.getText? aliasKey).filter (· ≠ "") }

end Target

end InitiatorStore
