import InitiatorStore.Namespace
import InitiatorStore.Prefs.Error
import InitiatorStore.Text.Decimal
import InitiatorStore.Text.Quoted
import InitiatorStore.Vault

/-!
# Notices

What the library reports about its work besides its answers.  A notice names what happened; its
level and its text are derived from that.
-/

namespace InitiatorStore

/-- How much a notice matters. -/
inductive NoticeLevel
  | warn
  | info
  | debug
  deriving DecidableEq

/-- The name of a level. -/
def NoticeLevel.name : NoticeLevel → String
  | .warn => "WARN"
  | .info => "INFO"
  | .debug => "DEBUG"

/-- Something that happened. -/
inductive Notice
  /-- A namespace is about to be staged. -/
  | writing (ns : Namespace)
  /-- A namespace has been read again. -/
  | reloaded (ns : Namespace)
  /-- The value of a namespace does not have the shape of one. -/
  | malformed (ns : Namespace)
  /-- A namespace could not be read again. -/
  | reloadFailed (ns : Namespace) (error : PrefsError)
  /-- Caches and preferences agree; so many namespaces were written. -/
  | synchronized (written : Nat)
  /-- An entry of a keyed collection does not decode. -/
  | skipped (key : String)
  /-- A document has been written with so many staged keys. -/
  | committed (keys : Nat) (path : String)
  | targetRemoved (target : String) (present : Bool)
  | portalRemoved (address target : String) (present : Bool)
  /-- Credentials are wanted and cannot be had. -/
  | secretMissing (node : String) (error : SecretError)
  /-- Credentials could not be written. -/
  | secretNotStored (node : String) (error : SecretError)
  /-- The authentication of an initiator without a name is set. -/
  | initiatorUnnamed
  deriving DecidableEq

namespace Notice

/-- How much a notice matters. -/
def level : Notice → NoticeLevel
  | .malformed _ | .reloadFailed .. | .secretMissing .. | .secretNotStored .. => .warn
  | .initiatorUnnamed => .warn
  | .committed .. => .info
  | _ => .debug

/-- The text of a notice. -/
def text : Notice → String
  | .writing ns => "Writing " ++ ns.key ++ " to preferences"
  | .reloaded ns => "Reloaded " ++ ns.key ++ " from preferences"
  | .malformed ns => "Ignoring malformed preference value for " ++ ns.key
  | .reloadFailed ns e =>
    "Failed to reload " ++ ns.key ++ ", keeping cached copy: " ++ e.message
  | .synchronized n =>
    "Synchronized preferences (" ++ Text.ofNat n ++ " namespace(s) written)"
  | .skipped key => "Skipping undecodable entry " ++ Text.quoted key
  | .committed n path =>
    "Committed " ++ Text.ofNat n ++ " preference key(s) to " ++ Text.quoted path
  | .targetRemoved t present => "Remove target " ++ t ++ " (present: " ++ toString present ++ ")"
  | .portalRemoved a t present =>
    "Remove portal " ++ a ++ " of " ++ t ++ " (present: " ++ toString present ++ ")"
  | .secretMissing node e =>
    "CHAP configured for " ++ node ++ " but no usable secret (" ++ e.message ++
      "), using no authentication"
  | .secretNotStored node e => "Failed to store CHAP secret for " ++ node ++ ": " ++ e.message
  | .initiatorUnnamed => "Initiator name is not set; CHAP secret cannot be keyed"

/-- The line of a notice in a log. -/
def line (n : Notice) : String := n.level.name ++ " " ++ n.text

end Notice

end InitiatorStore
