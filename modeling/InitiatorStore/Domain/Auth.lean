import InitiatorStore.Text.Quoted

/-!
# Authentication

A target or the initiator authenticates by a method, and the method `CHAP` uses credentials: a user
name and a secret.  Preferences hold the tag of the method only; the credentials are kept in a
secret store (`InitiatorStore.Vault`).  The description of credentials that is shown to people
leaves the secret out.
-/

namespace InitiatorStore

/-- A method of authentication. -/
inductive AuthMethod
  | none
  | chap
  deriving DecidableEq

namespace AuthMethod

/-- How a method is spelled. -/
def tag : AuthMethod → String
  | .none => "None"
  | .chap => "CHAP"

/-- The method of a spelling.  Any other text, the empty one included, is the tag of no method. -/
def ofTag? : String → Option AuthMethod
  | "None" => some .none
  | "CHAP" => some .chap
  | _ => Option.none

end AuthMethod

/-- A user name and the secret that goes with it. -/
structure Credentials where
  /-- The user name. -/
  user : String
  /-- The secret. -/
  secret : String
  deriving DecidableEq

/-- What is shown of credentials: the user name, and not the secret. -/
def Credentials.description (c : Credentials) : String :=
  "ChapSecret \x7b user: " ++ Text.quoted c.user ++ ", secret: \"<redacted>\" \x7d"

/-- The authentication of a target or of the initiator. -/
inductive Auth
  | none
  | chap (credentials : Credentials)
  deriving DecidableEq

namespace Auth

/-- The method of an authentication. -/
def method : Auth → AuthMethod
  | .none => .none
  | .chap _ => .chap

/-- What is shown of an authentication. -/
def description : Auth → String
  | .none => "None"
  | .chap c => "Chap(" ++ c.description ++ ")"

end Auth

end InitiatorStore
