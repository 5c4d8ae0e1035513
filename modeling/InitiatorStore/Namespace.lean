import InitiatorStore.Keyed.Basic

/-!
# Preference namespaces

The configuration is kept in three namespaces, each a value of its own under a fixed preference key:
the targets, the initiator itself, and what was discovered.
-/

namespace InitiatorStore

/-- One of the three parts of the configuration. -/
inductive Namespace
  | targets
  | initiator
  | discovery
  deriving DecidableEq

namespace Namespace

/-- All namespaces, in the order in which they are written and reloaded. -/
def all : List Namespace := [.targets, .initiator, .discovery]

/-- The preference key of a namespace, which is also its name for people. -/
def key : Namespace → String
  | .targets => "Target Nodes"
  | .initiator => "Initiator Node"
  | .discovery => "SendTargets Discovery"

/-- The namespace of a preference key. -/
def ofKey? (key : String) : Option Namespace := all.find? (·.key = key)

end Namespace

end InitiatorStore
