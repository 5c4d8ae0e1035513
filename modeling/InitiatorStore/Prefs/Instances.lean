import InitiatorStore.Prefs.Basic

/-!
# Several preference stores on one medium

Any number of instances share a medium, and each has its own stage.  `Instances.step` is one call to
one of them.
-/

namespace InitiatorStore

/-- A medium and the instances that are open on it. -/
structure Instances where
  medium : Medium
  handles : List Prefs := [{}]
  deriving DecidableEq

/-- A call to one of several instances. -/
inductive InstanceStep
  | open
  | set (i : Nat) (key : String) (value : Option Node)
  | copy (i : Nat) (key : String)
  | commit (i : Nat)
  deriving DecidableEq

/-- The answer to a call. -/
inductive InstanceAnswer
  | done
  | failed (error : PrefsError)
  | value (value : Option Node)
  deriving DecidableEq

/-- The answer to a call that yields nothing. -/
def InstanceAnswer.ofResult : Except PrefsError Unit → InstanceAnswer
  | .ok _ => .done
  | .error e => .failed e

namespace Instances

/-- An instance; one that is not open is fresh. -/
def get (w : Instances) (i : Nat) : Prefs := w.handles.getD i {}

/-- Puts an instance back. -/
def put (w : Instances) (i : Nat) (p : Prefs) : Instances := { w with handles := w.handles.set i p }

/-- One call. -/
def step (w : Instances) : InstanceStep → InstanceAnswer × Instances
  | .open => (.done, { w with handles := w.handles ++ [{}] })
  | .set i key value =>
    let (r, p) := (w.get i).set key value
    (.ofResult r, w.put i p)
  | .copy i key =>
    match (w.get i).copy w.medium key with
    | .ok v => (.value v, w)
    | .error e => (.failed e, w)
  | .commit i =>
    let c := (w.get i).commit w.medium
    (.ofResult c.result, { w.put i c.prefs with medium := c.medium })

end Instances

end InitiatorStore
