import InitiatorStore.Store.Operation

/-!
# Several stores

A `World` is what several configuration stores share: one medium, and vaults of which each store
uses one.  Its first vault is the shared one.  `World.step` is one event: an operation on one of the
stores, a store being opened, a change to a vault, or something that someone else does: a write to
the medium, or a change of the files.  So a document can become unreadable, or impossible to write,
and be put in order again.
-/

namespace InitiatorStore

/-- A store and the vault that it uses. -/
structure Seat where
  store : Store := {}
  /-- The vault's place in the list of vaults. -/
  vault : Nat := 0
  deriving DecidableEq

/-- Stores that share a medium. -/
structure World where
  medium : Medium
  vaults : List Vault := [{}]
  seats : List Seat := [{}]
  deriving DecidableEq

/-- An event among several stores. -/
inductive WorldEvent
  /-- An operation on a store. -/
  | act (i : Nat) (op : StoreOp)
  /-- A store is opened, on a vault of its own if one is given and on the shared one if not. -/
  | open (removal : Removal) (own : Option Vault)
  /-- The shared vault goes out of order, or works again. -/
  | vaultFault (fault : Option VaultFault)
  /-- Someone else commits a value, or the removal of a key. -/
  | put (key : String) (value : Option Node)
  /-- Someone else changes the files. -/
  | change (c : FileChange)

/-- The answer to an event. -/
inductive WorldAnswer
  | store (answer : StoreAnswer)
  | done
  | failed (error : PrefsError)

namespace World

/-- One store on a medium, with its vault. -/
def start (medium : Medium) (vault : Vault) (removal : Removal) : World :=
  { medium, vaults := [vault], seats := [{ store := { removal } }] }

/-- A store with its place; one that is not open is fresh. -/
def seat (w : World) (i : Nat) : Seat := w.seats.getD i {}

/-- A vault. -/
def vault (w : World) (i : Nat) : Vault := w.vaults.getD i {}

/-- The vault that the stores share. -/
def sharedVault (w : World) : Vault := w.vault 0

/-- An operation on a store. -/
def act (w : World) (i : Nat) (op : StoreOp) : StoreAnswer × World × List Notice :=
  let seat := w.seat i
  let turn := op.run seat.store (w.vault seat.vault) w.medium
  (turn.answer,
    { medium := turn.medium
      vaults := w.vaults.set seat.vault turn.vault
      seats := w.seats.set i { seat with store := turn.store } },
    turn.notices)

/-- Opens a store. -/
def openStore (w : World) (removal : Removal) : Option Vault → World
  | none => { w with seats := w.seats ++ [{ store := { removal } }] }
  | some own =>
    { w with
      vaults := w.vaults ++ [own]
      seats := w.seats ++ [{ store := { removal }, vault := w.vaults.length }] }

/-- One event. -/
def step (w : World) : WorldEvent → WorldAnswer × World × List Notice
  | .act i op =>
    let (answer, w, notices) := w.act i op
    (.store answer, w, notices)
  | .open removal own => (.done, w.openStore removal own, [])
  | .vaultFault fault =>
    (.done, { w with vaults := w.vaults.set 0 { w.sharedVault with fault } }, [])
  | .put key value =>
    let c := w.medium.put key value
    match c.result with
    | .ok _ => (.done, { w with medium := c.medium }, c.notices)
    | .error e => (.failed e, { w with medium := c.medium }, c.notices)
  | .change c =>
    let (done, files) := w.medium.files.change c
    (if done then .done else .failed .io, { w with medium := { w.medium with files } }, [])

end World

end InitiatorStore
