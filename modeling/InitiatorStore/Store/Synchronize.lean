import InitiatorStore.Store.Basic

/-!
# Agreement with preferences

`Store.synchronize` writes the namespaces that have changes and commits them together; then it reads
the other namespaces again, and takes all marks off.  There is no merging: whoever writes a
namespace last wins.

A call that fails before the commit is complete ends there, with caches and marks as they were; what
was staged before the failure stays staged.  After the commit nothing fails: a namespace that cannot
be read again keeps its value, and one whose value does not have the right shape is absent.
-/

namespace InitiatorStore

/-- What a synchronization comes to. -/
structure Sync where
  /-- Whether it succeeded. -/
  result : Except PrefsError Unit
  store : Store
  medium : Medium
  notices : List Notice

namespace Store

/-- Stages the values of some namespaces; the notices are those of the namespaces reached. -/
def stage (c : Cache) (p : Prefs) : List Namespace → Except PrefsError Unit × Prefs × List Notice
  | [] => (.ok (), p, [])
  | ns :: rest =>
    match p.set ns.key (c.node? ns) with
    | (.error e, p) => (.error e, p, [.writing ns])
    | (.ok _, p) =>
      let (r, p, notices) := stage c p rest
      (r, p, .writing ns :: notices)

/-- Reads one namespace again. -/
def reload (m : Medium) (ns : Namespace) (c : Cache) (p : Prefs) : Cache × Prefs × List Notice :=
  let value := p.copy m ns.key
  let p := p.record (.copy ns.key)
  match value with
  | .error e => (c, p, [.reloadFailed ns e])
  | .ok none => (c.load ns none, p, [])
  | .ok (some n) =>
    (c.load ns n, p, (ns.dropped n).map .skipped ++
      [if ns.accepts n then .reloaded ns else .malformed ns])

/-- Reads some namespaces again. -/
def reloadAll (m : Medium) (c : Cache) (p : Prefs) :
    List Namespace → Cache × Prefs × List Notice
  | [] => (c, p, [])
  | ns :: rest =>
    let (c, p, first) := reload m ns c p
    let (c, p, others) := reloadAll m c p rest
    (c, p, first ++ others)

/-- Brings caches and preferences into agreement. -/
def synchronize (s : Store) (m : Medium) : Sync :=
  let modified := s.cache.modified
  match stage s.cache s.prefs modified with
  | (.error e, p, notices) => ⟨.error e, { s with prefs := p }, m, notices⟩
  | (.ok _, p, notices) =>
    let c := p.commit m
    match c.result with
    | .error e => ⟨.error e, { s with prefs := c.prefs }, c.medium, notices ++ c.notices⟩
    | .ok _ =>
      let (cache, p, reloads) := reloadAll c.medium s.cache c.prefs
        (Namespace.all.filter fun ns => !modified.contains ns)
      ⟨.ok (), { s with cache := cache.settle, prefs := p }, c.medium,
        notices ++ c.notices ++ reloads ++ [.synchronized modified.length]⟩

end Store

end InitiatorStore
