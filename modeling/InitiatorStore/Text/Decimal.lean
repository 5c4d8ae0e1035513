import InitiatorStore.Text.Blank

/-!
# Decimal numbers in text

A natural number is written without a sign and without leading zeros (`Text.ofNat`).  On reading,
white space at the ends is ignored, one `+` may stand in front, and any number of leading zeros is
accepted (`Text.readNat?`).  Nothing bounds the length of the text or the number read; a caller
that has a range to keep uses `Text.readNatBelow?`.
-/

namespace InitiatorStore.Text

/-- The decimal digits of a number. -/
def ofNat (n : Nat) : String := String.ofList (Nat.toDigits 10 n)

/-- The number that a non-empty list of decimal digits stands for. -/
def digitsValue? (cs : List Char) : Option Nat :=
  if cs ≠ [] ∧ cs.all Char.isDigit then some (Nat.ofDigitChars 10 cs 0) else none

/-- What follows a leading `+`, or everything if there is none. -/
def dropPlus : List Char → List Char
  | '+' :: cs => cs
  | cs => cs

/-- The number that a text stands for. -/
def readNat? (s : String) : Option Nat := digitsValue? (dropPlus (trimChars s.toList))

/-- The number that a text stands for, if it is smaller than `bound`. -/
def readNatBelow? (bound : Nat) (s : String) : Option Nat :=
  (readNat? s).filter (· < bound)

end InitiatorStore.Text
