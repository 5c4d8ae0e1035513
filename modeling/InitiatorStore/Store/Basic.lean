import InitiatorStore.Cache
import InitiatorStore.Prefs.Basic

/-!
# The configuration store

A `Store` holds the caches of the three namespaces and an instance of a preference store.  Reading
and changing the configuration works on the caches; `Store.synchronize` brings caches and
preferences into agreement.
-/

namespace InitiatorStore

/-- What the removal of something that is not there does to the mark of its namespace. -/
inductive Removal
  /-- Every removal marks the namespace. -/
  | compat
  /-- A removal marks the namespace only if something was removed. -/
  | strict
  deriving DecidableEq

namespace Removal

/-- The name of a mode. -/
def name : Removal → String
  | .compat => "compat"
  | .strict => "strict"

/-- The mode of a name. -/
def ofName? : String → Option Removal
  | "compat" => some .compat
  | "strict" => some .strict
  | _ => none

/-- Whether a removal that did or did not find something marks the namespace. -/
def marks (r : Removal) (found : Bool) : Bool := found || r = .compat

end Removal

/-- A configuration store. -/
structure Store where
  /-- The cached configuration. -/
  cache : Cache := {}
  /-- The instance of a preference store behind the caches. -/
  prefs : Prefs := {}
  /-- How removals mark. -/
  removal : Removal := .compat
  deriving DecidableEq

namespace Store

/-- Changes the targets. -/
def onTargets (s : Store) (f : Slot TargetTable → Slot TargetTable) : Store :=
  { s with cache := { s.cache with targets := f s.cache.targets } }

/-- Changes the initiator. -/
def onInitiator (s : Store) (f : Slot InitiatorRecord → Slot InitiatorRecord) : Store :=
  { s with cache := { s.cache with initiator := f s.cache.initiator } }

/-- Changes what was discovered. -/
def onDiscovery (s : Store) (f : Slot Document → Slot Document) : Store :=
  { s with cache := { s.cache with discovery := f s.cache.discovery } }

/-- Whether a namespace has changes that have not been written. -/
def isModified (s : Store) (ns : Namespace) : Bool := s.cache.isModified ns

/-- Whether a namespace has been loaded or created. -/
def isLoaded (s : Store) (ns : Namespace) : Bool := s.cache.isPresent ns

end Store

end InitiatorStore
