import InitiatorStore.Node

/-!
# Connection parameters

The parameters of a connection through a portal are two digests, one over headers and one over
data.  Both have to be there and to be spelled exactly.
-/

namespace InitiatorStore

/-- A digest that protects a part of each message. -/
inductive Digest
  | none
  | crc32c
  deriving DecidableEq

namespace Digest

/-- How a digest is spelled. -/
def tag : Digest → String
  | .none => "None"
  | .crc32c => "CRC32C"

/-- The digest of a spelling. -/
def ofTag? : String → Option Digest
  | "None" => some .none
  | "CRC32C" => some .crc32c
  | _ => Option.none

end Digest

/-- Parameters of a connection through a portal. -/
structure Connection where
  /-- The digest over headers. -/
  header : Digest := .none
  /-- The digest over data. -/
  data : Digest := .none
  deriving DecidableEq

namespace Connection

/-- The key of the digest over headers. -/
def headerKey : String := "Header Digest"

/-- The key of the digest over data. -/
def dataKey : String := "Data Digest"

instance : NodeCodec Connection where
  toNode c := .ofList [(headerKey, .scalar c.header.tag), (dataKey, .scalar c.data.tag)]
  ofNode? n := do
    let header ← (n.getText? headerKey).bind Digest.ofTag?
    let data ← (n.getText? dataKey).bind Digest.ofTag?
    return { header, data }

end Connection

end InitiatorStore
