/-!
# Reading TOML text: characters, lines and strings

A `Reader` takes characters off the front of a text or fails.  This module has the readers that know
nothing of values: blank space, comments, line ends, and the four kinds of strings.
-/

namespace InitiatorStore.Toml

/-- Takes characters off the front of a text, or fails. -/
abbrev Reader := StateT (List Char) Option

namespace Reader

/-- The next character. -/
def next : Reader Char := fun cs =>
  match cs with
  | [] => none
  | c :: rest => some (c, rest)

/-- The next character, which stays where it is. -/
def peek? : Reader (Option Char) := fun cs => some (cs.head?, cs)

/-- The characters that satisfy `p`, up to the first that does not. -/
def takeWhile (p : Char → Bool) : Reader (List Char) := fun cs =>
  some (cs.takeWhile p, cs.dropWhile p)

/-- Exactly the characters of `s`. -/
def token (s : String) : Reader Unit := fun cs =>
  if s.toList.isPrefixOf cs then some ((), cs.drop s.length) else none

/-- One more than the number of characters that are left. -/
def fuel : Reader Nat := fun cs => some (cs.length + 1, cs)

/-- The end of the text. -/
def atEnd : Reader Unit := fun cs => if cs.isEmpty then some ((), cs) else none

end Reader

open Reader

/-! ### Blank space and comments -/

/-- Whether a character may stand in a comment: the tab, and all that are no ASCII controls. -/
def isPlain (c : Char) : Bool := c = '\t' || (0x20 ≤ c.toNat && c.toNat ≠ 0x7F)

/-- Whether a character is blank space within a line. -/
def isSpace (c : Char) : Bool := c = ' ' || c = '\t'

/-- Blank space within a line. -/
def space : Reader Unit := do
  let _ ← takeWhile isSpace

/-- A line break. -/
def newline : Reader Unit := token "\n" <|> token "\r\n"

/-- A comment, up to the end of its line. -/
def comment : Reader Unit := do
  token "#"
  let _ ← takeWhile isPlain

/-- What may stand between a value and the next line. -/
def lineEnd : Reader Unit := do
  space
  comment <|> pure ()
  newline <|> atEnd

/-- A text without the blank space, line breaks and comments at its front; `inComment` tells that it
begins within a comment. -/
def dropGap (inComment : Bool) : List Char → List Char
  | [] => []
  | '\n' :: cs => dropGap false cs
  | '\r' :: '\n' :: cs => dropGap false cs
  | c :: cs =>
    if inComment then if isPlain c then dropGap true cs else c :: cs
    else if isSpace c then dropGap false cs
    else if c = '#' then dropGap true cs
    else c :: cs

/-- Blank space, line breaks and comments. -/
def gap : Reader Unit := fun cs => some ((), dropGap false cs)

/-! ### Strings -/

/-- The value of a hexadecimal digit in either case. -/
def hexValue? (c : Char) : Option Nat :=
  if c.isDigit then some (c.toNat - '0'.toNat)
  else if 'a' ≤ c && c ≤ 'f' then some (c.toNat - 'a'.toNat + 10)
  else if 'A' ≤ c && c ≤ 'F' then some (c.toNat - 'A'.toNat + 10)
  else none

/-- The number that so many hexadecimal digits stand for. -/
def hexNumber : Nat → Nat → Reader Nat
  | 0, value => pure value
  | n + 1, value => do
    let d ← (hexValue? (← next)).getM
    hexNumber n (value * 16 + d)

/-- The character of a code point of so many digits. -/
def codePoint (digits : Nat) : Reader Char := do
  let n ← hexNumber digits 0
  if n.isValidChar then return Char.ofNat n else failure

/-- What follows a backslash in a string. -/
def escape : Reader Char := do
  match ← next with
  | 'b' => return '\x08'
  | 'f' => return '\x0c'
  | 'n' => return '\n'
  | 'r' => return '\r'
  | 't' => return '\t'
  | '"' => return '"'
  | '\\' => return '\\'
  | 'u' => codePoint 4
  | 'U' => codePoint 8
  | _ => failure

/-- A one-line string with escapes, after its opening quotation mark. -/
def basicChars : Nat → Reader (List Char)
  | 0 => failure
  | n + 1 => do
    match ← next with
    | '"' => return []
    | '\\' =>
      let c ← escape
      return c :: (← basicChars n)
    | c => if isPlain c then return c :: (← basicChars n) else failure

/-- A one-line string without escapes, after its opening apostrophe. -/
def literalChars : Reader (List Char) := do
  let cs ← takeWhile fun c => isPlain c && c ≠ '\''
  token "'"
  return cs

/-- Up to two more of the quotes that have just closed a string over several lines; they belong to
the string. -/
def extraQuotes (quote : String) : Reader (List Char) :=
  (do token quote; token quote; return quote.toList ++ quote.toList) <|>
    (do token quote; return quote.toList) <|> pure []

/-- After a backslash at the end of a line: the rest of the line, and blank space and line breaks up
to the next other character. -/
def continuation : Reader Unit := do
  space
  newline
  fun cs => some ((), dropBreaks cs)
where
  /-- A text without the blank space and line breaks at its front. -/
  dropBreaks : List Char → List Char
    | '\n' :: cs => dropBreaks cs
    | '\r' :: '\n' :: cs => dropBreaks cs
    | c :: cs => if isSpace c then dropBreaks cs else c :: cs
    | [] => []

/-- A string over several lines with escapes, after its opening quotation marks. -/
def basicLines : Nat → Reader (List Char)
  | 0 => failure
  | n + 1 =>
    (do token "\"\"\""; extraQuotes "\"") <|>
    (do token "\\"; continuation; basicLines n) <|>
    (do newline; return '\n' :: (← basicLines n)) <|>
    (do
      match ← next with
      | '\\' =>
        let c ← escape
        return c :: (← basicLines n)
      | c => if isPlain c then return c :: (← basicLines n) else failure)

/-- A string over several lines without escapes, after its opening apostrophes. -/
def literalLines : Nat → Reader (List Char)
  | 0 => failure
  | n + 1 =>
    (do token "'''"; extraQuotes "'") <|>
    (do newline; return '\n' :: (← literalLines n)) <|>
    (do
      let c ← next
      if isPlain c then return c :: (← literalLines n) else failure)

/-- A one-line string. -/
def line : Reader String := do
  match ← next with
  | '"' => return String.ofList (← basicChars (← fuel))
  | '\'' => return String.ofList (← literalChars)
  | _ => failure

/-- A string.  A line break right after the opening of a string over several lines is dropped. -/
def string : Reader String := do
  let opening (quotes : String) : Reader Bool := (do token quotes; return true) <|> pure false
  if ← opening "\"\"\"" then
    newline <|> pure ()
    return String.ofList (← basicLines (← fuel))
  else if ← opening "'''" then
    newline <|> pure ()
    return String.ofList (← literalLines (← fuel))
  else line

end InitiatorStore.Toml
