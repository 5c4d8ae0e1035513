import InitiatorStore.Notice
import InitiatorStore.Prefs.Medium

/-!
# Preference stores

A `Prefs` is one instance of a preference store on a medium that it may share with others.  Its
writes are staged: it sees them itself at once, and the others see them when they are committed.
A commit reads the committed document as it is at that moment, applies the staged writes to it and
leaves all other keys alone.

If the document cannot be read the stage is kept.  If it cannot be written the stage is lost: it has
been taken before the attempt.

An instance also records the calls it receives and can be told to refuse some of them; a refused
call reaches neither the stage nor the medium.
-/

namespace InitiatorStore

/-- A call to a preference store. -/
inductive PrefsCall
  | set (key : String)
  | copy (key : String)
  | commit
  deriving DecidableEq

/-- The text of a call. -/
def PrefsCall.text : PrefsCall → String
  | .set key => "set " ++ key
  | .copy key => "copy " ++ key
  | .commit => "commit"

/-- Which calls a preference store refuses. -/
structure Refusals where
  /-- The keys that may not be staged. -/
  set : List String := []
  /-- The keys that may not be copied. -/
  copy : List String := []
  /-- Whether commits are refused. -/
  commit : Bool := false
  deriving DecidableEq

/-- One instance of a preference store. -/
structure Prefs where
  /-- Staged writes by key; a staged `none` is a removal. -/
  staged : Keyed (Option Node) := ∅
  /-- The calls it refuses. -/
  refusals : Refusals := {}
  /-- The calls it has received, the latest first. -/
  calls : List PrefsCall := []
  deriving DecidableEq

/-- What a commit comes to. -/
structure Commit where
  /-- Whether it succeeded. -/
  result : Except PrefsError Unit
  prefs : Prefs
  medium : Medium
  notices : List Notice := []

/-- A document after staged writes. -/
def applyStaged (staged : Keyed (Option Node)) (d : Document) : Document :=
  staged.toList.foldl (fun d e =>
    match e.2 with
    | some n => d.insert e.1 n
    | none => d.erase e.1) d

namespace Prefs

/-- Records a call. -/
def record (p : Prefs) (call : PrefsCall) : Prefs := { p with calls := call :: p.calls }

/-- The value under a key: the staged one, or else the committed one. -/
def copy (p : Prefs) (m : Medium) (key : String) : Except PrefsError (Option Node) :=
  if p.refusals.copy.contains key then .error (.backend "read refused")
  else
    match p.staged.get? key with
    | some staged => .ok staged
    | none => m.read.map (·.get? key)

/-- Stages a value under a key, or the removal of the key. -/
def set (p : Prefs) (key : String) (value : Option Node) : Except PrefsError Unit × Prefs :=
  let p := p.record (.set key)
  if p.refusals.set.contains key then (.error (.backend "write refused"), p)
  else (.ok (), { p with staged := p.staged.insert key value })

/-- Writes the staged values to the medium. -/
def commit (p : Prefs) (m : Medium) : Commit :=
  let p := p.record .commit
  if p.refusals.commit then ⟨.error (.backend "disk full"), p, m, []⟩
  else if p.staged.isEmpty then ⟨.ok (), p, m, []⟩
  else
    match m.read with
    | .error e => ⟨.error e, p, m, []⟩
    | .ok d =>
      match m.write (applyStaged p.staged d) with
      | (false, m) => ⟨.error .io, { p with staged := ∅ }, m, []⟩
      | (true, m) =>
        ⟨.ok (), { p with staged := ∅ }, m,
          (m.path?.map (Notice.committed p.staged.size)).toList⟩

/-- Takes the record of calls, in the order in which they were received. -/
def takeCalls (p : Prefs) : List PrefsCall × Prefs := (p.calls.reverse, { p with calls := [] })

end Prefs

namespace Medium

/-- Commits one value, or the removal of a key, through an instance opened for that. -/
def put (m : Medium) (key : String) (value : Option Node) : Commit :=
  (({} : Prefs).set key value).2.commit m

/-- Copies one value through an instance opened for that. -/
def get (m : Medium) (key : String) : Except PrefsError (Option Node) :=
  ({} : Prefs).copy m key

end Medium

end InitiatorStore
