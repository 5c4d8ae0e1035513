import InitiatorStore.Toml.Reader
import InitiatorStore.Toml.Table

/-!
# TOML numbers, truth values and dates

A number or a truth value is a word: everything up to blank space, a line break, a comment, a comma
or a closing bracket.  Digits may be grouped by single underscores.  An integer has to fit 64 bits
and a float must not overflow.  A date has its parts in range and a day that its month has.
-/

namespace InitiatorStore.Toml

open Reader

/-! ### Numbers -/

/-- A list of digits without the underscores that group them; each stands between two digits. -/
def ungroup? (isDigit : Char → Bool) : List Char → Option (List Char)
  | [] => none
  | [c] => if isDigit c then some [c] else none
  | c :: '_' :: rest => if isDigit c then (ungroup? isDigit rest).map (c :: ·) else none
  | c :: rest => if isDigit c then (ungroup? isDigit rest).map (c :: ·) else none

/-- A sign, whether it is negative, and what follows. -/
def splitSign : List Char → Bool × List Char
  | '-' :: cs => (true, cs)
  | '+' :: cs => (false, cs)
  | cs => (false, cs)

/-- The digits of a decimal integer: a single zero, or no zero in front. -/
def decimalDigits? (cs : List Char) : Option (List Char) :=
  (ungroup? Char.isDigit cs).filter fun ds => ds = ['0'] || ds.head? ≠ some '0'

/-- The number that digits of a base stand for. -/
def baseValue (base : Nat) (ds : List Char) : Nat :=
  ds.foldl (fun n d => n * base + (hexValue? d).getD 0) 0

/-- The bound of the integers. -/
def integerBound : Nat := Nat.pow 2 63

/-- An integer with a prefix that tells its base. -/
def basedInteger? (base : Nat) (cs : List Char) : Option Int := do
  let ds ← ungroup? (fun c => ((hexValue? c).filter (· < base)).isSome) cs
  let n := baseValue base ds
  if n < integerBound then return n else none

/-- An integer. -/
def integer? : List Char → Option Int
  | '0' :: 'x' :: cs => basedInteger? 16 cs
  | '0' :: 'o' :: cs => basedInteger? 8 cs
  | '0' :: 'b' :: cs => basedInteger? 2 cs
  | cs => do
    let (negative, cs) := splitSign cs
    let n := baseValue 10 (← decimalDigits? cs)
    if negative then if n ≤ integerBound then return -n else none
    else if n < integerBound then return n else none

/-- Whether `mantissa * 10 ^ exponent` is too large for a float: it is at least halfway from the
largest one to the next power of two. -/
def overflows (mantissa : Nat) (exponent : Int) : Bool :=
  let digits : Int := (Nat.toDigits 10 mantissa).length
  if mantissa = 0 || digits + exponent < 300 then false
  else if digits + exponent > 320 then true
  else
    let bound := (Nat.pow 2 54 - 1) * Nat.pow 2 970
    if 0 ≤ exponent then bound ≤ mantissa * Nat.pow 10 exponent.toNat
    else bound * Nat.pow 10 (-exponent).toNat ≤ mantissa

/-- Whether a word is a float: an integer with a fraction, an exponent or both, or one of the words
for infinity and for no number.  Only a positive float is refused for its size. -/
def isFloat (cs : List Char) : Bool :=
  let (negative, unsigned) := splitSign cs
  if unsigned = "inf".toList || unsigned = "nan".toList then true
  else
    let isE (c : Char) : Bool := c = 'e' || c = 'E'
    let (whole, fraction) := (unsigned.takeWhile (!isE ·)).span (· ≠ '.')
    let power := unsigned.dropWhile (!isE ·)
    let digits (cs : List Char) : Option (List Char) := ungroup? Char.isDigit cs
    let value : Option (Nat × Int) := do
      let whole ← decimalDigits? whole
      let fraction ← if fraction.isEmpty then some [] else digits (fraction.drop 1)
      let (down, power) ←
        if power.isEmpty then some (false, 0)
        else
          let (down, ds) := splitSign (power.drop 1)
          (digits ds).map fun ds => (down, baseValue 10 ds)
      let shift : Int := if down then -power else power
      return (baseValue 10 (whole ++ fraction), shift - fraction.length)
    match value with
    | none => false
    | some (mantissa, exponent) =>
      !(fraction.isEmpty && power.isEmpty) && (negative || !overflows mantissa exponent)

/-- Whether a character ends a word. -/
def endsWord (c : Char) : Bool :=
  isSpace c || c = '\n' || c = '\r' || c = '#' || c = ',' || c = ']' || c = '\x7d'

/-- A number or a truth value. -/
def word : Reader Item := do
  let cs ← takeWhile (!endsWord ·)
  if cs = "true".toList then return .boolean true
  else if cs = "false".toList then return .boolean false
  else if isFloat cs then return .float
  else return .integer (← (integer? cs).getM)

/-! ### Dates and times -/

/-- A number of exactly so many digits. -/
def digits : Nat → Nat → Reader Nat
  | 0, value => pure value
  | n + 1, value => do
    let c ← next
    if c.isDigit then digits n (value * 10 + (c.toNat - '0'.toNat)) else failure

/-- A number of two digits between two bounds. -/
def twoDigits (low high : Nat) : Reader Unit := do
  let n ← digits 2 0
  if low ≤ n && n ≤ high then return () else failure

/-- How many days a month has. -/
def daysIn (year month : Nat) : Nat :=
  if month = 2 then
    if year % 4 = 0 && (year % 100 ≠ 0 || year % 400 = 0) then 29 else 28
  else if month = 4 || month = 6 || month = 9 || month = 11 then 30
  else 31

/-- A date. -/
def date : Reader Unit := do
  let year ← digits 4 0
  token "-"
  let month ← digits 2 0
  token "-"
  let day ← digits 2 0
  if 1 ≤ month && month ≤ 12 && 1 ≤ day && day ≤ daysIn year month then return () else failure

/-- A time of day. -/
def time : Reader Unit := do
  twoDigits 0 23
  token ":"
  twoDigits 0 59
  token ":"
  twoDigits 0 60
  (do
    token "."
    let ds ← takeWhile Char.isDigit
    if ds.isEmpty then failure) <|> pure ()

/-- The offset of a time from universal time. -/
def offset : Reader Unit :=
  token "Z" <|> token "z" <|> do
    token "+" <|> token "-"
    twoDigits 0 23
    token ":"
    twoDigits 0 59

/-- A date, a time, or both. -/
def datetime : Reader Item := do
  (do
    date
    (do
      token "T" <|> token "t" <|> token " "
      time
      offset <|> pure ()) <|> pure ()) <|> time
  return .datetime

end InitiatorStore.Toml
