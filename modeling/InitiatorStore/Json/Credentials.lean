import InitiatorStore.Domain.Auth
import InitiatorStore.Json.Node

/-!
# Credentials as JSON

Credentials are written as an object with the two members `user` and `secret`.  Reading finds the
two members among any others, whose values may be of any kind, and refuses an object that lacks one
or has it twice; it also accepts an array of exactly the two texts.
-/

namespace InitiatorStore.Credentials

/-- The key of the user name. -/
def userKey : String := "user"

/-- The key of the secret. -/
def secretKey : String := "secret"

/-- The JSON text of credentials. -/
def toJson (c : Credentials) : String :=
  String.ofList ('\x7b' :: Json.quote userKey ++ ':' :: Json.quote c.user ++
    ',' :: Json.quote secretKey ++ ':' :: Json.quote c.secret ++ ['\x7d'])

/-- The texts of the two members that have been found so far. -/
structure Found where
  user? : Option String := none
  secret? : Option String := none

/-- One member of an object. -/
def Found.add? (f : Found) : Option String × Json → Option Found
  | (none, _) => none
  | (some k, j) =>
    if k = userKey then
      match f.user?, j with
      | none, .text (some s) => some { f with user? := some s }
      | _, _ => none
    else if k = secretKey then
      match f.secret?, j with
      | none, .text (some s) => some { f with secret? := some s }
      | _, _ => none
    else some f

/-- The credentials of a JSON value. -/
def ofJson? : Json → Option Credentials
  | .array [.text (some user), .text (some secret)] => some { user, secret }
  | .object members => do
    let found ← members.foldlM Found.add? {}
    let user ← found.user?
    let secret ← found.secret?
    return { user, secret }
  | _ => none

/-- The credentials that a JSON text spells. -/
def read? (s : String) : Option Credentials := (Json.read? s).bind ofJson?

end InitiatorStore.Credentials
