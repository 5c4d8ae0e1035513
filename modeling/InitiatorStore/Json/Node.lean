import InitiatorStore.Node
import InitiatorStore.Json.Value

/-!
# Nodes as JSON

A node is written as JSON with strings and objects only, the keys of an object in ascending order.
Two layouts are in use: `Layout.pretty`, with an indent of two spaces, for documents, and
`Layout.compact`, without any blank space.

Reading accepts strings and objects at every level and nothing else, keeps the last value of a
repeated key, and refuses a text in which more than `maxDepth` objects nest.  Writing has no such
bound: the text of a node that nests deeper is written, and is refused when it is read.
-/

namespace InitiatorStore

/-! ### Writing -/

/-- The four lower-case hexadecimal digits of a character below U+10000. -/
def hex4 (n : Nat) : List Char :=
  [n / 4096 % 16, n / 256 % 16, n / 16 % 16, n % 16].map Nat.digitChar

/-- A character as it stands in a JSON string. -/
def Json.escape (c : Char) : List Char :=
  match c with
  | '"' => ['\\', '"']
  | '\\' => ['\\', '\\']
  | '\x08' => ['\\', 'b']
  | '\x0c' => ['\\', 'f']
  | '\n' => ['\\', 'n']
  | '\r' => ['\\', 'r']
  | '\t' => ['\\', 't']
  | c => if c.toNat < 0x20 then '\\' :: 'u' :: hex4 c.toNat else [c]

/-- A JSON string. -/
def Json.quote (s : String) : List Char := '"' :: s.toList.flatMap Json.escape ++ ['"']

/-- Where blank space stands in a JSON text. -/
structure Layout where
  /-- What stands before an entry of an object, and before its closing brace, at a depth. -/
  gap : Nat → List Char
  /-- What stands between a key and its value. -/
  colon : List Char

/-- Each entry on a line of its own, indented by two spaces for each level. -/
def Layout.pretty : Layout where
  gap depth := '\n' :: List.replicate (2 * depth) ' '
  colon := [':', ' ']

/-- No blank space at all. -/
def Layout.compact : Layout where
  gap _ := []
  colon := [':']

namespace Node

mutual

/-- The text of a node that stands at a depth. -/
def write (l : Layout) (depth : Nat) : Node → List Char
  | .scalar s => Json.quote s
  | .mapping .nil => ['\x7b', '\x7d']
  | .mapping (.cons k _ n rest) =>
    '\x7b' :: l.gap (depth + 1) ++ Json.quote k ++ l.colon ++ write l (depth + 1) n ++
      writeRest l depth rest

/-- The text of the entries after the first of a mapping that stands at a depth, up to and with
its closing brace. -/
def writeRest (l : Layout) (depth : Nat) : {lo : Option String} → Entries Node lo → List Char
  | _, .nil => l.gap depth ++ ['\x7d']
  | _, .cons k _ n rest =>
    ',' :: l.gap (depth + 1) ++ Json.quote k ++ l.colon ++ write l (depth + 1) n ++
      writeRest l depth rest

end

/-- The text of a node without blank space. -/
def compact (n : Node) : String := String.ofList (n.write .compact 0)

/-- The text of a node over several lines. -/
def pretty (n : Node) : String := String.ofList (n.write .pretty 0)

/-! ### Reading -/

/-- How many objects may nest in a text that is read. -/
def maxDepth : Nat := 127

mutual

/-- The node of a JSON value in which at most `depth` objects nest. -/
def ofJson? (depth : Nat) : Json → Option Node
  | .text s => s.map .scalar
  | .atom => none
  | .array _ => none
  | .object members =>
    match depth with
    | 0 => none
    | depth + 1 => (ofMembers? depth ∅ members).map .mapping

/-- The entries of an object, added to those already read. -/
def ofMembers? (depth : Nat) (entries : Document) :
    List (Option String × Json) → Option Document
  | [] => some entries
  | m :: rest => (ofMember? depth m).bind fun e => ofMembers? depth (entries.insert e.1 e.2) rest

/-- One entry of an object. -/
def ofMember? (depth : Nat) : Option String × Json → Option (String × Node)
  | (k, j) => k.bind fun k => (ofJson? depth j).map (k, ·)

end

/-- The node that a JSON text spells. -/
def read? (s : String) : Option Node := (Json.read? s).bind (ofJson? maxDepth)

end Node

namespace Document

/-- The text of a document. -/
def pretty (d : Document) : String := (Node.mapping d).pretty

/-- The document that a JSON text spells; the text must spell an object. -/
def read? (s : String) : Option Document := (Node.read? s).bind Node.entries?

end Document

end InitiatorStore
