import InitiatorStore.Json.Node

/-!
# The tokens of a written node

The text of a node is cut into the tokens of the node (`Node.tokens?_write`): a string that has been
written is one token with its text, whatever characters it holds, and blank space that a layout puts
between tokens leaves no trace.
-/

namespace InitiatorStore

namespace Json

/-! ### Strings -/

/-- The piece of a string that a character is read as when it has been written. -/
def piece (c : Char) : Piece :=
  if c.toNat < 0x20 ∧ c ∉ ['\x08', '\x0c', '\n', '\r', '\t'] then .unit c.toNat else .char c

theorem textOf?_unit {u : Nat} (hu : u < 0xD800) (ps : List Piece) :
    textOf? (.unit u :: ps) = (textOf? ps).map (Char.ofNat u :: ·) := by
  have hhigh : isHighSurrogate u = false := by
    simp only [isHighSurrogate, Bool.and_eq_false_iff, decide_eq_false_iff_not]
    omega
  have hlow : isLowSurrogate u = false := by
    simp only [isLowSurrogate, Bool.and_eq_false_iff, decide_eq_false_iff_not]
    omega
  rcases ps with _ | ⟨c | v, ps⟩ <;> simp [textOf?, hhigh, hlow]

/-- The pieces of a string that has been written stand for its characters. -/
theorem textOf?_map_piece (cs : List Char) : textOf? (cs.map piece) = some cs := by
  induction cs with
  | nil => rfl
  | cons c cs ih =>
    rw [List.map_cons, piece]
    split
    · next h =>
      rw [textOf?_unit (Nat.lt_trans h.1 (by decide)), ih]
      simp
    · rw [textOf?, ih]
      rfl

/-- The characters that may stand between tokens. -/
def spaces : List Char := [' ', '\t', '\n', '\r']

theorem hexDigit?_digitChar {n : Nat} (h : n < 16) : hexDigit? n.digitChar = some n := by
  have all : ∀ n < 16, hexDigit? n.digitChar = some n := by decide
  exact all n h

namespace Lexer

/-- The four digits of a `\u` escape. -/
theorem run?_hex4 {n : Nat} (hn : n < 0x10000) (ps : List Piece) (ts : List Token)
    (cs : List Char) :
    (⟨.hex 0 0 ps, ts⟩ : Lexer).run? (hex4 n ++ cs) =
      (⟨.quoted (.unit n :: ps), ts⟩ : Lexer).run? cs := by
  have hvalue : (((n / 4096 % 16) * 16 + n / 256 % 16) * 16 + n / 16 % 16) * 16 + n % 16 = n := by
    omega
  have hdigit : ∀ m, hexDigit? (m % 16).digitChar = some (m % 16) := fun m =>
    hexDigit?_digitChar (Nat.mod_lt m (by decide))
  simp [hex4, run?, step?, hdigit, hvalue]

/-- A character that has been written in a string. -/
theorem run?_escape (c : Char) (ps : List Piece) (ts : List Token) (cs : List Char) :
    (⟨.quoted ps, ts⟩ : Lexer).run? (escape c ++ cs) =
      (⟨.quoted (piece c :: ps), ts⟩ : Lexer).run? cs := by
  fun_cases escape c
  -- a control character is written by its number, and any other as it is or by a letter
  case case8 hquote hslash hb hf hn hr ht hlt =>
    have hpiece : piece c = .unit c.toNat := by
      rw [piece, if_pos ⟨hlt, by simpa using ⟨hb, hf, hn, hr, ht⟩⟩]
    simpa [run?, step?, hpiece] using run?_hex4 (by omega) ps ts cs
  case case9 hquote hslash hb hf hn hr ht hge =>
    have hpiece : piece c = .char c := by rw [piece, if_neg (fun h => hge h.1)]
    have hstep : (⟨.quoted ps, ts⟩ : Lexer).step? c = some ⟨.quoted (.char c :: ps), ts⟩ := by
      rw [step?]
      exact (if_neg hquote).trans ((if_neg hslash).trans (if_neg hge))
    simp [run?, hstep, hpiece]
  all_goals simp [run?, step?, escapeChar?, piece]

/-- A string that has been written is one token with its text. -/
theorem run?_quote (s : String) (ts : List Token) (cs : List Char) :
    (⟨.between, ts⟩ : Lexer).run? (quote s ++ cs) =
      (⟨.between, .text (some s) :: ts⟩ : Lexer).run? cs := by
  have body : ∀ (t : List Char) (ps : List Piece) (ds : List Char),
      (⟨.quoted ps, ts⟩ : Lexer).run? (t.flatMap escape ++ ds) =
        (⟨.quoted ((t.map piece).reverse ++ ps), ts⟩ : Lexer).run? ds := by
    intro t
    induction t with
    | nil => intro ps ds; rfl
    | cons c t ih =>
      intro ps ds
      rw [List.flatMap_cons, List.append_assoc, run?_escape, ih]
      simp
  have hclose : (⟨.quoted (s.toList.map piece).reverse, ts⟩ : Lexer).run? ('"' :: cs) =
      (⟨.between, .text (some s) :: ts⟩ : Lexer).run? cs := by
    simp [run?, step?, textOf?_map_piece]
  calc (⟨.between, ts⟩ : Lexer).run? (quote s ++ cs)
      = (⟨.quoted [], ts⟩ : Lexer).run? (s.toList.flatMap escape ++ '"' :: cs) := by
        simp [quote, run?, step?, begin?]
    _ = (⟨.between, .text (some s) :: ts⟩ : Lexer).run? cs := by
        rw [body, List.append_nil, hclose]

/-- Blank space between tokens leaves no trace. -/
theorem run?_spaces {sp : List Char} (h : ∀ c ∈ sp, c ∈ spaces) (ts : List Token)
    (cs : List Char) :
    (⟨.between, ts⟩ : Lexer).run? (sp ++ cs) = (⟨.between, ts⟩ : Lexer).run? cs := by
  induction sp with
  | nil => rfl
  | cons c sp ih =>
    have hc : c ∈ spaces := h c (List.mem_cons_self ..)
    have hstep : (⟨.between, ts⟩ : Lexer).step? c = some ⟨.between, ts⟩ := by
      simp only [spaces, List.mem_cons, List.not_mem_nil, or_false] at hc
      rcases hc with rfl | rfl | rfl | rfl <;> rfl
    rw [List.cons_append, run?, hstep]
    exact ih fun c' hc' => h c' (List.mem_cons_of_mem c hc')

end Lexer

end Json

/-! ### Layouts -/

/-- A layout puts nothing but blank space between the tokens. -/
structure Layout.Spaced (l : Layout) : Prop where
  gap : ∀ depth, ∀ c ∈ l.gap depth, c ∈ Json.spaces
  colon : ∃ sp, l.colon = ':' :: sp ∧ ∀ c ∈ sp, c ∈ Json.spaces

theorem Layout.spaced_pretty : Layout.pretty.Spaced where
  gap depth c hc := by
    rcases List.mem_cons.1 hc with rfl | hc
    · simp [Json.spaces]
    · rw [List.eq_of_mem_replicate hc]
      simp [Json.spaces]
  colon := ⟨[' '], rfl, by simp [Json.spaces]⟩

theorem Layout.spaced_compact : Layout.compact.Spaced where
  gap _ _ hc := by cases hc
  colon := ⟨[], rfl, by simp⟩

/-! ### Nodes -/

namespace Node

open Json

mutual

/-- The tokens of a node. -/
def tokens : Node → List Token
  | .scalar s => [.text (some s)]
  | .mapping .nil => [.openBrace, .closeBrace]
  | .mapping (.cons k _ n rest) =>
    .openBrace :: .text (some k) :: .colon :: (tokens n ++ tokensRest rest)

/-- The tokens of the entries after the first of a mapping, up to and with its closing brace. -/
def tokensRest : {lo : Option String} → Entries Node lo → List Token
  | _, .nil => [.closeBrace]
  | _, .cons k _ n rest =>
    .comma :: .text (some k) :: .colon :: (tokens n ++ tokensRest rest)

end

/-- The text from a key to the end of its value. -/
theorem run?_entry {l : Layout} (hl : l.Spaced) (depth : Nat) (k : String) (ts : List Token)
    (cs : List Char) :
    (⟨.between, ts⟩ : Lexer).run? (l.gap depth ++ (quote k ++ (l.colon ++ cs))) =
      (⟨.between, .colon :: .text (some k) :: ts⟩ : Lexer).run? cs := by
  obtain ⟨sp, hcolon, hsp⟩ := hl.colon
  rw [Lexer.run?_spaces (hl.gap depth), Lexer.run?_quote, hcolon, List.cons_append]
  exact Lexer.run?_spaces hsp _ cs

mutual

/-- The text of a node is cut into the tokens of the node. -/
theorem run?_write {l : Layout} (hl : l.Spaced) (depth : Nat) (ts : List Token)
    (cs : List Char) : (n : Node) →
    (⟨.between, ts⟩ : Lexer).run? (write l depth n ++ cs) =
      (⟨.between, n.tokens.reverse ++ ts⟩ : Lexer).run? cs
  | .scalar s => by
    rw [write, tokens]
    exact Lexer.run?_quote s ts cs
  | .mapping .nil => by
    rw [write, tokens]
    rfl
  | .mapping (.cons k _ n rest) => by
    have hopen (ds : List Char) : (⟨.between, ts⟩ : Lexer).run? ('\x7b' :: ds) =
        (⟨.between, .openBrace :: ts⟩ : Lexer).run? ds := rfl
    simp only [write, tokens, List.append_assoc, List.cons_append]
    rw [hopen, run?_entry hl, run?_write hl (depth + 1) _ _ n, run?_writeRest hl depth _ _ rest]
    simp

theorem run?_writeRest {l : Layout} (hl : l.Spaced) (depth : Nat) (ts : List Token)
    (cs : List Char) : {lo : Option String} → (m : Entries Node lo) →
    (⟨.between, ts⟩ : Lexer).run? (writeRest l depth m ++ cs) =
      (⟨.between, (tokensRest m).reverse ++ ts⟩ : Lexer).run? cs
  | _, .nil => by
    rw [writeRest, tokensRest, List.append_assoc, Lexer.run?_spaces (hl.gap depth)]
    rfl
  | _, .cons k _ n rest => by
    have hcomma (ds : List Char) : (⟨.between, ts⟩ : Lexer).run? (',' :: ds) =
        (⟨.between, .comma :: ts⟩ : Lexer).run? ds := rfl
    simp only [writeRest, tokensRest, List.append_assoc, List.cons_append]
    rw [hcomma, run?_entry hl, run?_write hl (depth + 1) _ _ n, run?_writeRest hl depth _ _ rest]
    simp

end

theorem tokens?_write {l : Layout} (hl : l.Spaced) (n : Node) :
    tokens? (n.write l 0) = some n.tokens := by
  have h := run?_write hl 0 [] [] n
  rw [List.append_nil, List.append_nil] at h
  rw [tokens?, Lexer.start, h]
  simp [Lexer.run?, Lexer.finish?]

end Node

end InitiatorStore
