import InitiatorStore.Text.Spelled

/-!
# Quoted text

A text is quoted for people between quotation marks, with backslash escapes for the quotation mark,
the backslash, the null character, the tab and the two line ends, and with the code point of each
character that cannot be seen (`Text.isSpelled`).
-/

namespace InitiatorStore.Text

/-- The code point of a character, in lower-case hexadecimal digits between braces. -/
def codePoint (c : Char) : List Char :=
  '\\' :: 'u' :: '\x7b' :: Nat.toDigits 16 c.toNat ++ ['\x7d']

/-- A character as it stands in a quoted text. -/
def quotedChar (c : Char) : List Char :=
  match c with
  | '\x00' => ['\\', '0']
  | '\t' => ['\\', 't']
  | '\n' => ['\\', 'n']
  | '\r' => ['\\', 'r']
  | '"' => ['\\', '"']
  | '\\' => ['\\', '\\']
  | c => if isSpelled c then codePoint c else [c]

/-- A text between quotation marks. -/
def quoted (s : String) : String :=
  String.ofList ('"' :: s.toList.flatMap quotedChar ++ ['"'])

end InitiatorStore.Text
