import InitiatorStore.Node

/-!
# Portals

A portal is an address at which a target is reached.  Its address is also the key under which it is
filed, so a node without an address, or with an empty one, is no portal.  A missing or empty port
reads as the well-known one, a missing interface as the empty one.
-/

namespace InitiatorStore

/-- The well-known port. -/
def defaultPort : String := "3260"

/-- A network portal. -/
structure Portal where
  /-- A host name or a network address. -/
  address : String
  /-- The port. -/
  port : String := defaultPort
  /-- The local interface to use, empty for any. -/
  interface : String := ""
  deriving DecidableEq

namespace Portal

/-- The key of a portal's address. -/
def addressKey : String := "Address"

/-- The key of a portal's port. -/
def portKey : String := "Port"

/-- The key of a portal's local interface. -/
def interfaceKey : String := "Host Interface"

instance : NodeCodec Portal where
  toNode p := .ofList
    [(addressKey, .scalar p.address), (portKey, .scalar p.port),
      (interfaceKey, .scalar p.interface)]
  ofNode? n :=
    ((n.getText? addressKey).filter (· ≠ "")).map fun address =>
      { address
        port := ((n.getText? portKey).filter (· ≠ "")).getD defaultPort
        interface := (n.getText? interfaceKey).getD "" }

end Portal

end InitiatorStore
