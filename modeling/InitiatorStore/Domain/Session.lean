import InitiatorStore.Node
import InitiatorStore.Text.Decimal

/-!
# Session parameters

The parameters of the session with a target are three numbers, written in decimal.  Reading keeps
them in range: the error recovery level is at most 2 and there is at least one connection.  A
portal group tag that is missing or does not read as one is 0.  Writing does not look at the
ranges.
-/

namespace InitiatorStore

/-- Parameters of a session with a target. -/
structure Session where
  /-- The error recovery level. -/
  errorRecoveryLevel : UInt8 := 0
  /-- The greatest number of connections. -/
  maxConnections : UInt32 := 1
  /-- The tag of the target's portal group. -/
  portalGroupTag : UInt16 := 0
  deriving DecidableEq

namespace Session

/-- The key of the error recovery level. -/
def levelKey : String := "Error Recovery Level"

/-- The key of the number of connections. -/
def connectionsKey : String := "Maximum Connections"

/-- The key of the portal group tag. -/
def tagKey : String := "Target Portal Group Tag"

/-- The highest error recovery level that is defined. -/
def highestLevel : Nat := 2

/-- The number under a key, if it is smaller than a bound. -/
def field? (n : Node) (key : String) (bound : Nat) : Option Nat :=
  (n.getText? key).bind (Text.readNatBelow? bound)

instance : NodeCodec Session where
  toNode s := .ofList
    [(levelKey, .scalar (Text.ofNat s.errorRecoveryLevel.toNat)),
      (connectionsKey, .scalar (Text.ofNat s.maxConnections.toNat)),
      (tagKey, .scalar (Text.ofNat s.portalGroupTag.toNat))]
  ofNode? n := do
    let level ← field? n levelKey (highestLevel + 1)
    let connections ← (field? n connectionsKey UInt32.size).filter (1 ≤ ·)
    return {
      errorRecoveryLevel := .ofNat level
      maxConnections := .ofNat connections
      portalGroupTag := .ofNat ((field? n tagKey UInt16.size).getD 0) }

end Session

end InitiatorStore
