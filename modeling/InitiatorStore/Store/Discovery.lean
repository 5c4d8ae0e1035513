import InitiatorStore.Domain.Discovery
import InitiatorStore.Store.Basic

/-!
# What was discovered

The discovery namespace is a mapping from targets to what was discovered about them.  A record that
is added replaces the entries of its own targets and leaves the others as they are, whether they can
be read or not.  Clearing drops the whole mapping.
-/

namespace InitiatorStore

/-- The mapping of a discovery record. -/
def DiscoveryRecord.entries (r : DiscoveryRecord) : Document := ((toNode r).entries?).getD ∅

namespace Store

variable (s : Store)

/-- Adds a discovery record. -/
def addDiscovery (r : DiscoveryRecord) : Store :=
  s.onDiscovery fun d => ((d.ensure ∅).modify (·.merge r.entries)).mark

/-- What was discovered, as far as it can be read. -/
def discovery? : Option DiscoveryRecord :=
  s.cache.discovery.value.bind fun d => ofNode? (toNode d)

/-- Drops everything that was discovered. -/
def clearDiscovery : Store := s.onDiscovery fun d => (d.replace none).mark

end Store

end InitiatorStore
