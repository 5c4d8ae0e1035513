import InitiatorStore.Text.Decimal
import Mathlib.Data.List.Induction
import Mathlib.Data.List.TakeWhile

/-!
# The grammar of decimal numbers

`Text.readNat?` takes white space and a plus off a text and folds over the digits that are left.
Here the texts that it accepts are told by a grammar in which nothing is taken off or folded:

* `Digits cs n` : `cs` are decimal digits, one or more, and they stand for `n`;
* `Numeral s n` : `s` is white space, a plus at most, digits that stand for `n`, and white space.

The reader accepts the numerals and no other text, and reads each as the number that it stands for,
however long it is (`readNat?_eq_some_iff`).  So no text stands for two numbers (`Numeral.unique`).
What is written for a number is a numeral that stands for it (`numeral_ofNat`).
-/

namespace InitiatorStore.Text

/-- Digits stand for a number: each further digit makes ten times the number before it, and what
the digit stands for itself. -/
inductive Digits : List Char → Nat → Prop
  | one {c : Char} : c.isDigit = true → Digits [c] (c.toNat - 48)
  | snoc {cs : List Char} {n : Nat} {c : Char} :
      Digits cs n → c.isDigit = true → Digits (cs ++ [c]) (10 * n + (c.toNat - 48))

/-- A text stands for a number: it is made of digits, with a plus before them at most, and with any
white space at its ends. -/
def Numeral (s : String) (n : Nat) : Prop :=
  ∃ before sign digits after : List Char, s.toList = before ++ ((sign ++ digits) ++ after) ∧
    (∀ c ∈ before, isBlankChar c = true) ∧ (∀ c ∈ after, isBlankChar c = true) ∧
    (sign = [] ∨ sign = ['+']) ∧ Digits digits n

variable {cs : List Char} {s : String} {n : Nat}

/-! ### Digits -/

theorem digits_iff : Digits cs n ↔
    cs ≠ [] ∧ (∀ c ∈ cs, c.isDigit = true) ∧ Nat.ofDigitChars 10 cs 0 = n := by
  constructor
  · intro h
    induction h with
    | one hc => simpa [Nat.ofDigitChars] using hc
    | snoc _ hc ih =>
      obtain ⟨-, hdigits, hvalue⟩ := ih
      refine ⟨by simp, ?_, ?_⟩
      · simpa [or_imp, forall_and] using ⟨hdigits, hc⟩
      · rw [Nat.ofDigitChars_append, hvalue]
        rfl
  · rintro ⟨hne, hdigits, rfl⟩
    induction cs using List.reverseRecOn with
    | nil => exact absurd rfl hne
    | append_singleton cs c ih =>
      have hc : c.isDigit = true := hdigits c (by simp)
      by_cases hcs : cs = []
      · subst hcs
        simpa [Nat.ofDigitChars] using Digits.one hc
      · have hrest := ih hcs fun c' hc' => hdigits c' (by simp [hc'])
        rw [Nat.ofDigitChars_append]
        exact hrest.snoc hc

theorem digitsValue?_eq_some_iff : digitsValue? cs = some n ↔ Digits cs n := by
  simp [digitsValue?, digits_iff, and_assoc]

theorem Digits.ne_nil (h : Digits cs n) : cs ≠ [] := (digits_iff.1 h).1

theorem Digits.isDigit (h : Digits cs n) : ∀ c ∈ cs, c.isDigit = true := (digits_iff.1 h).2.1

/-- The digits that are written for a number stand for it. -/
theorem digits_toDigits (n : Nat) : Digits (Nat.toDigits 10 n) n :=
  digits_iff.2 ⟨Nat.toDigits_ne_nil,
    fun _ hc => Nat.isDigit_of_mem_toDigits (by decide) (by decide) hc,
    Nat.ofDigitChars_ten_toDigits⟩

/-! ### White space and sign -/

theorem isBlankChar_of_isDigit {c : Char} (h : c.isDigit = true) : isBlankChar c = false := by
  simp only [Char.isDigit, Bool.and_eq_true, decide_eq_true_eq, ge_iff_le,
    UInt32.le_iff_toNat_le] at h
  have hrange : 48 ≤ c.toNat ∧ c.toNat ≤ 57 := h
  simp only [isBlankChar, Bool.or_eq_false_iff, Bool.and_eq_false_iff, decide_eq_false_iff_not,
    beq_eq_false_iff_ne]
  omega

/-- What is taken off the ends of a list of characters is white space. -/
theorem exists_trimChars (cs : List Char) : ∃ before after, cs = before ++ (trimChars cs ++ after) ∧
    (∀ c ∈ before, isBlankChar c = true) ∧ ∀ c ∈ after, isBlankChar c = true := by
  have hsplit : ∀ l : List Char, ∃ blanks, l = blanks ++ l.dropWhile isBlankChar ∧
      ∀ c ∈ blanks, isBlankChar c = true := fun l =>
    ⟨l.takeWhile isBlankChar, List.takeWhile_append_dropWhile.symm,
      fun _ hc => List.mem_takeWhile_imp hc⟩
  obtain ⟨before, hbefore, hblank⟩ := hsplit cs
  obtain ⟨after, hafter, hblank'⟩ := hsplit (cs.dropWhile isBlankChar).reverse
  refine ⟨before, after.reverse, ?_, hblank, by simpa using hblank'⟩
  rw [trimChars, ← List.reverse_append, ← hafter, List.reverse_reverse]
  exact hbefore

theorem dropWhile_blanks {before middle : List Char} (hbefore : ∀ c ∈ before, isBlankChar c = true)
    (hmiddle : ∀ c ∈ middle, isBlankChar c = false) (hne : middle ≠ []) (rest : List Char) :
    (before ++ (middle ++ rest)).dropWhile isBlankChar = middle ++ rest := by
  rw [List.dropWhile_append_of_pos hbefore]
  cases middle with
  | nil => exact absurd rfl hne
  | cons c middle =>
    exact List.dropWhile_cons_of_neg (Bool.eq_false_iff.1 (hmiddle c (List.mem_cons_self ..)))

/-- White space at the ends is taken off, and nothing else. -/
theorem trimChars_append {before middle after : List Char}
    (hbefore : ∀ c ∈ before, isBlankChar c = true) (hafter : ∀ c ∈ after, isBlankChar c = true)
    (hmiddle : ∀ c ∈ middle, isBlankChar c = false) (hne : middle ≠ []) :
    trimChars (before ++ (middle ++ after)) = middle := by
  have hreverse : (after.reverse ++ (middle.reverse ++ [])).dropWhile isBlankChar =
      middle.reverse ++ [] :=
    dropWhile_blanks (by simpa using hafter) (by simpa using hmiddle) (by simpa using hne) []
  rw [List.append_nil] at hreverse
  rw [trimChars, dropWhile_blanks hbefore hmiddle hne, List.reverse_append, hreverse,
    List.reverse_reverse]

theorem exists_dropPlus (cs : List Char) :
    ∃ sign, cs = sign ++ dropPlus cs ∧ (sign = [] ∨ sign = ['+']) := by
  unfold dropPlus
  split
  · exact ⟨['+'], rfl, .inr rfl⟩
  · exact ⟨[], rfl, .inl rfl⟩

theorem dropPlus_append {sign digits : List Char} (hsign : sign = [] ∨ sign = ['+'])
    (hdigits : ∀ c ∈ digits, c.isDigit = true) : dropPlus (sign ++ digits) = digits := by
  rcases hsign with rfl | rfl
  · unfold dropPlus
    split
    · next h => exact absurd (hdigits '+' (by simp_all)) (by decide)
    · rfl
  · rfl

/-! ### Numerals -/

/-- The texts that are read as a number are those that stand for it. -/
theorem readNat?_eq_some_iff : readNat? s = some n ↔ Numeral s n := by
  rw [readNat?, digitsValue?_eq_some_iff]
  constructor
  · intro h
    obtain ⟨before, after, htext, hbefore, hafter⟩ := exists_trimChars s.toList
    obtain ⟨sign, hsplit, hsign⟩ := exists_dropPlus (trimChars s.toList)
    exact ⟨before, sign, _, after, hsplit ▸ htext, hbefore, hafter, hsign, h⟩
  · rintro ⟨before, sign, digits, after, htext, hbefore, hafter, hsign, hdigits⟩
    have hmiddle : ∀ c ∈ sign ++ digits, isBlankChar c = false := by
      intro c hc
      rcases List.mem_append.1 hc with hc | hc
      · rcases hsign with rfl | rfl
        · cases hc
        · obtain rfl := List.mem_singleton.1 hc
          decide
      · exact isBlankChar_of_isDigit (hdigits.isDigit c hc)
    rw [htext, trimChars_append hbefore hafter hmiddle (by simp [hdigits.ne_nil]),
      dropPlus_append hsign hdigits.isDigit]
    exact hdigits

/-- A text stands for one number at most. -/
theorem Numeral.unique {k : Nat} (h : Numeral s n) (h' : Numeral s k) : n = k :=
  Option.some.inj ((readNat?_eq_some_iff.2 h).symm.trans (readNat?_eq_some_iff.2 h'))

theorem readNatBelow?_eq_some_iff {bound : Nat} :
    readNatBelow? bound s = some n ↔ Numeral s n ∧ n < bound := by
  rw [readNatBelow?, Option.filter_eq_some_iff, readNat?_eq_some_iff, decide_eq_true_iff]

/-- What is written for a number stands for it. -/
theorem numeral_ofNat (n : Nat) : Numeral (ofNat n) n :=
  ⟨[], [], Nat.toDigits 10 n, [], by simp [ofNat], nofun, nofun, .inl rfl, digits_toDigits n⟩

end InitiatorStore.Text
