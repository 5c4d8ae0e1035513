import InitiatorStore.Toml.Scalar

/-!
# TOML documents

A document is a sequence of lines: definitions, and headers that open a table or add one to an array
of tables.  `Toml.read?` answers the entries of the document, or nothing if its text is not TOML
1.0.

Values may nest, and keys may have parts, to less than `nestingLimit`.
-/

namespace InitiatorStore.Toml

open Reader

/-- How deep values nest at most, and how many parts a key has at most, is below this. -/
def nestingLimit : Nat := 80

/-! ### Keys -/

/-- Whether a character may stand in a key without quotes. -/
def isKeyChar (c : Char) : Bool := c.isAlphanum || c = '_' || c = '-'

/-- One part of a key. -/
def keyPart : Reader String := do
  space
  let part ← line <|> bare
  space
  return part
where
  /-- A part without quotes. -/
  bare : Reader String := do
    let cs ← takeWhile isKeyChar
    if cs.isEmpty then failure
    return String.ofList cs

/-- The parts of a key after the first. -/
def moreParts : Nat → Reader (List String)
  | 0 => failure
  | n + 1 =>
    (do
      token "."
      let part ← keyPart
      return part :: (← moreParts n)) <|> pure []

/-- A key, as what leads to it and its own last part. -/
def key : Reader Table.Name := do
  let parts := (← keyPart) :: (← moreParts nestingLimit)
  if nestingLimit ≤ parts.length then failure
  return (parts.dropLast, parts.getLastD "")

/-! ### Values -/

/-- Enters a value that nests others. -/
def deeper (depth : Nat) : Reader Nat := do
  if nestingLimit ≤ depth + 1 then failure
  return depth + 1

mutual

/-- A value at a depth. -/
def value (depth : Nat) : Nat → Reader Item
  | 0 => failure
  | n + 1 => do
    match ← peek? with
    | some '"' | some '\'' => return .text (← string)
    | some '[' =>
      token "["
      return .array (← items (← deeper depth) n)
    | some '\x7b' =>
      token "\x7b"
      let depth ← deeper depth
      space
      (do
        token "\x7d"
        return .table { inline := true } ∅) <|>
        return (← entries depth { kind := { inline := true } } n).item
    | _ => datetime <|> word

/-- The items of an array, up to and with its closing bracket. -/
def items (depth : Nat) : Nat → Reader (List Item)
  | 0 => failure
  | n + 1 => do
    gap
    (do
      token "]"
      return []) <|> do
      let v ← value depth n
      gap
      (do
        token ","
        return v :: (← items depth n)) <|> do
        token "]"
        return [v]

/-- The entries of an inline table, up to and with its closing brace. -/
def entries (depth : Nat) (t : Table) : Nat → Reader Table
  | 0 => failure
  | n + 1 => do
    let name ← key
    token "="
    space
    let v ← value depth n
    space
    let t ← (t.define? name v).getM
    (do
      token ","
      entries depth t n) <|> do
      token "\x7d"
      return t

end

/-! ### Lines -/

/-- One line. -/
def expression (d : Draft) : Reader Draft := do
  match ← peek? with
  | some '#' =>
    lineEnd
    return d
  | some '\n' | some '\r' =>
    newline
    return d
  | some '[' =>
    let last ← (do token "[["; return true) <|> (do token "["; return false)
    let name ← key
    token (if last then "]]" else "]")
    lineEnd
    (d.open? name last).getM
  | _ =>
    let name ← key
    token "="
    space
    let v ← value 0 (2 * (← fuel))
    lineEnd
    (d.define? name v).getM

/-- All lines. -/
def expressions : Nat → Draft → Reader Draft
  | 0, _ => failure
  | n + 1, d => do
    space
    (do
      atEnd
      return d) <|> do
      let d ← expression d
      expressions n d

/-- The entries of the document that a text spells.  A byte order mark in front is skipped. -/
def read? (s : String) : Option (Keyed Item) :=
  let cs := if s.toList.head? = some '\ufeff' then s.toList.tail else s.toList
  (expressions (cs.length + 1) {} cs).bind fun r => r.1.close?.map (·.entries)

end InitiatorStore.Toml
