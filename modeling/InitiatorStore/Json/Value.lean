import InitiatorStore.Json.Token

/-!
# JSON values

A JSON text is read into a `Json` value: its structure with all strings, and with the members of an
object in the order of the text, repeated keys included.  What a reader of a particular shape
accepts is decided on this value and not on the text.

The structure is found by a machine that takes one token at a time (`Reader.step?`) and keeps a
stack of the arrays and objects that are still open.  It needs no bound on how deep a text nests.
-/

namespace InitiatorStore

/-- A JSON value.  A string with an unpaired surrogate has no text; a number, `true`, `false` and
`null` are atoms. -/
inductive Json
  | text (s : Option String)
  | atom
  | array (items : List Json)
  | object (members : List (Option String × Json))

namespace Json

/-- An array or object that is still open, with what it holds so far in reverse.  An object also
has the key whose value is being read. -/
inductive Open
  | array (items : List Json)
  | object (members : List (Option String × Json)) (key : Option String)

/-- What the next token may be, and the arrays and objects that are open, innermost first. -/
inductive Reader
  /-- A value is due. -/
  | value (outer : List Open)
  /-- An array has just been opened: a value or its end. -/
  | firstItem (outer : List Open)
  /-- An item of an array is complete: a comma or the end. -/
  | afterItem (items : List Json) (outer : List Open)
  /-- An object has just been opened: a key or its end. -/
  | firstKey (outer : List Open)
  /-- A comma has been read in an object: a key. -/
  | nextKey (members : List (Option String × Json)) (outer : List Open)
  /-- A key has been read: a colon. -/
  | afterKey (members : List (Option String × Json)) (key : Option String) (outer : List Open)
  /-- A member of an object is complete: a comma or the end. -/
  | afterMember (members : List (Option String × Json)) (outer : List Open)
  /-- The whole value is complete: nothing may follow. -/
  | done (j : Json)

namespace Reader

/-- A value is complete: it goes into the innermost open array or object. -/
def complete (j : Json) : List Open → Reader
  | [] => .done j
  | .array items :: outer => .afterItem (j :: items) outer
  | .object members key :: outer => .afterMember ((key, j) :: members) outer

/-- A token where a value is due. -/
def begin? (outer : List Open) : Token → Option Reader
  | .text s => some (complete (.text s) outer)
  | .atom => some (complete .atom outer)
  | .openBracket => some (.firstItem outer)
  | .openBrace => some (.firstKey outer)
  | _ => none

/-- One token. -/
def step? : Reader → Token → Option Reader
  | .value outer, t => begin? outer t
  | .firstItem outer, .closeBracket => some (complete (.array []) outer)
  | .firstItem outer, t => begin? (.array [] :: outer) t
  | .afterItem items outer, .comma => some (.value (.array items :: outer))
  | .afterItem items outer, .closeBracket => some (complete (.array items.reverse) outer)
  | .firstKey outer, .text k => some (.afterKey [] k outer)
  | .firstKey outer, .closeBrace => some (complete (.object []) outer)
  | .nextKey ms outer, .text k => some (.afterKey ms k outer)
  | .afterKey ms k outer, .colon => some (.value (.object ms k :: outer))
  | .afterMember ms outer, .comma => some (.nextKey ms outer)
  | .afterMember ms outer, .closeBrace => some (complete (.object ms.reverse) outer)
  | _, _ => none

/-- All tokens of a text. -/
def run? (r : Reader) : List Token → Option Reader
  | [] => some r
  | t :: ts => (r.step? t).bind (·.run? ts)

/-- The value, if it is complete. -/
def finish? : Reader → Option Json
  | .done j => some j
  | _ => none

end Reader

/-- The value that a list of tokens spells. -/
def ofTokens? (ts : List Token) : Option Json :=
  ((Reader.value []).run? ts).bind Reader.finish?

/-- The value that a text spells. -/
def read? (s : String) : Option Json := (tokens? s.toList).bind ofTokens?

end Json

end InitiatorStore
