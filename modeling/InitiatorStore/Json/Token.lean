/-!
# Tokens of a JSON text

A JSON text is cut into tokens before its structure is looked at.  The cutting is a machine that
takes one character at a time (`Lexer.step`), so it is total by construction and what it does to
`cs ++ ds` is what it does to `cs` and then to `ds`.

* Blank space between tokens is exactly the space, the tab, the line feed and the carriage return.
* A string is kept as `text s`.  Its escapes are resolved; a pair of `\u` escapes that spells a
  surrogate pair is one character.  A string that is well formed except for an unpaired surrogate
  has no text, and its token is `text none`.
* Control characters below U+0020 may not stand in a string unescaped.
* Numbers are recognised by their grammar and `true`, `false`, `null` by their spelling; both give
  the token `atom`, which keeps no value.
-/

namespace InitiatorStore.Json

/-- A token of a JSON text. -/
inductive Token
  | openBrace
  | closeBrace
  | openBracket
  | closeBracket
  | colon
  | comma
  | text (s : Option String)
  | atom
  deriving DecidableEq

/-! ### Strings -/

/-- A piece of a string: a character, or the value of a `\u` escape. -/
inductive Piece
  | char (c : Char)
  | unit (u : Nat)
  deriving DecidableEq

/-- Whether a value is the first half of a surrogate pair. -/
def isHighSurrogate (u : Nat) : Bool := 0xD800 ≤ u && u ≤ 0xDBFF

/-- Whether a value is the second half of a surrogate pair. -/
def isLowSurrogate (u : Nat) : Bool := 0xDC00 ≤ u && u ≤ 0xDFFF

/-- The character that two halves of a surrogate pair stand for. -/
def surrogatePair (hi lo : Nat) : Char :=
  Char.ofNat (0x10000 + (hi - 0xD800) * 0x400 + (lo - 0xDC00))

/-- The characters that the pieces of a string stand for; there are none if a surrogate has no
partner. -/
def textOf? : List Piece → Option (List Char)
  | [] => some []
  | .char c :: rest => (textOf? rest).map (c :: ·)
  | .unit u :: .unit v :: rest =>
    if isHighSurrogate u then
      if isLowSurrogate v then (textOf? rest).map (surrogatePair u v :: ·) else none
    else if isLowSurrogate u then none
    else (textOf? (.unit v :: rest)).map (Char.ofNat u :: ·)
  | .unit u :: rest =>
    if isHighSurrogate u || isLowSurrogate u then none
    else (textOf? rest).map (Char.ofNat u :: ·)

/-- The character that a one-letter escape stands for. -/
def escapeChar? : Char → Option Char
  | '"' => some '"'
  | '\\' => some '\\'
  | '/' => some '/'
  | 'b' => some '\x08'
  | 'f' => some '\x0c'
  | 'n' => some '\n'
  | 'r' => some '\r'
  | 't' => some '\t'
  | _ => none

/-- The value of a hexadecimal digit in either case. -/
def hexDigit? (c : Char) : Option Nat :=
  if '0' ≤ c && c ≤ '9' then some (c.toNat - '0'.toNat)
  else if 'a' ≤ c && c ≤ 'f' then some (c.toNat - 'a'.toNat + 10)
  else if 'A' ≤ c && c ≤ 'F' then some (c.toNat - 'A'.toNat + 10)
  else none

/-! ### Numbers -/

/-- How far a number has been read. -/
inductive NumberPhase
  | sign
  | zero
  | integer
  | point
  | fraction
  | exponent
  | exponentSign
  | exponentDigits
  deriving DecidableEq

/-- The phase after one more character, if the number goes on with it. -/
def NumberPhase.step? : NumberPhase → Char → Option NumberPhase
  | .sign, c => if c = '0' then some .zero else if c.isDigit then some .integer else none
  | .zero, c =>
    if c = '.' then some .point else if c = 'e' ∨ c = 'E' then some .exponent else none
  | .integer, c =>
    if c.isDigit then some .integer
    else if c = '.' then some .point else if c = 'e' ∨ c = 'E' then some .exponent else none
  | .point, c => if c.isDigit then some .fraction else none
  | .fraction, c =>
    if c.isDigit then some .fraction else if c = 'e' ∨ c = 'E' then some .exponent else none
  | .exponent, c =>
    if c.isDigit then some .exponentDigits
    else if c = '+' ∨ c = '-' then some .exponentSign else none
  | .exponentSign, c => if c.isDigit then some .exponentDigits else none
  | .exponentDigits, c => if c.isDigit then some .exponentDigits else none

/-- Whether a number may end in a phase. -/
def NumberPhase.isComplete : NumberPhase → Bool
  | .zero | .integer | .fraction | .exponentDigits => true
  | .sign | .point | .exponent | .exponentSign => false

/-! ### The machine -/

/-- Where in a token the machine is; pieces and letters read so far are in reverse. -/
inductive Mode
  | between
  | quoted (pieces : List Piece)
  | escape (pieces : List Piece)
  | hex (count value : Nat) (pieces : List Piece)
  | word (letters : List Char)
  | number (phase : NumberPhase)
  deriving DecidableEq

/-- The machine: its mode and the tokens completed so far, in reverse. -/
structure Lexer where
  mode : Mode
  tokens : List Token
  deriving DecidableEq

namespace Lexer

/-- The machine before any character. -/
def start : Lexer := ⟨.between, []⟩

/-- One character outside of any token. -/
def begin? (tokens : List Token) (c : Char) : Option Lexer :=
  match c with
  | ' ' | '\t' | '\n' | '\r' => some ⟨.between, tokens⟩
  | '\x7b' => some ⟨.between, .openBrace :: tokens⟩
  | '\x7d' => some ⟨.between, .closeBrace :: tokens⟩
  | '[' => some ⟨.between, .openBracket :: tokens⟩
  | ']' => some ⟨.between, .closeBracket :: tokens⟩
  | ':' => some ⟨.between, .colon :: tokens⟩
  | ',' => some ⟨.between, .comma :: tokens⟩
  | '"' => some ⟨.quoted [], tokens⟩
  | '-' => some ⟨.number .sign, tokens⟩
  | '0' => some ⟨.number .zero, tokens⟩
  | c =>
    if c.isDigit then some ⟨.number .integer, tokens⟩
    else if c.isLower then some ⟨.word [c], tokens⟩
    else none

/-- Whether letters, in reverse, spell one of the three words of JSON. -/
def isWord (letters : List Char) : Bool :=
  letters.reverse == "true".toList || letters.reverse == "false".toList ||
    letters.reverse == "null".toList

/-- One character. -/
def step? (l : Lexer) (c : Char) : Option Lexer :=
  match l.mode with
  | .between => begin? l.tokens c
  | .quoted ps =>
    if c = '"' then some ⟨.between, .text ((textOf? ps.reverse).map String.ofList) :: l.tokens⟩
    else if c = '\\' then some ⟨.escape ps, l.tokens⟩
    else if c.toNat < 0x20 then none
    else some ⟨.quoted (.char c :: ps), l.tokens⟩
  | .escape ps =>
    if c = 'u' then some ⟨.hex 0 0 ps, l.tokens⟩
    else (escapeChar? c).map fun e => ⟨.quoted (.char e :: ps), l.tokens⟩
  | .hex count value ps =>
    (hexDigit? c).map fun d =>
      if count = 3 then ⟨.quoted (.unit (value * 16 + d) :: ps), l.tokens⟩
      else ⟨.hex (count + 1) (value * 16 + d) ps, l.tokens⟩
  | .word cs =>
    if c.isLower then some ⟨.word (c :: cs), l.tokens⟩
    else if isWord cs then begin? (.atom :: l.tokens) c
    else none
  | .number p =>
    match p.step? c with
    | some p' => some ⟨.number p', l.tokens⟩
    | none => if p.isComplete then begin? (.atom :: l.tokens) c else none

/-- All characters of a text. -/
def run? (l : Lexer) : List Char → Option Lexer
  | [] => some l
  | c :: cs => (l.step? c).bind (·.run? cs)

/-- The tokens, if no token is left unfinished. -/
def finish? (l : Lexer) : Option (List Token) :=
  match l.mode with
  | .between => some l.tokens.reverse
  | .word cs => if isWord cs then some (Token.atom :: l.tokens).reverse else none
  | .number p => if p.isComplete then some (Token.atom :: l.tokens).reverse else none
  | _ => none

end Lexer

/-- The tokens of a text. -/
def tokens? (cs : List Char) : Option (List Token) :=
  (Lexer.start.run? cs).bind Lexer.finish?

end InitiatorStore.Json
