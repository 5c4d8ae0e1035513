/-!
# Arguments

The words of a command are sorted into operands and options.  Every option takes one value, which
stands in the same word (`--name=value`, `-nvalue`, `-n=value`) or in the next one.  Options and
operands may stand in any order, and `--` says that only operands follow.

A word can also ask for help.  Words that do are no arguments; whether help is given depends on the
words before it (`Grammar.asksHelp`).

The words are refused if an option is not known, has no value, or is given twice.  The word after an
option is not its value if it looks like an option itself; a single dash never does.
-/

namespace InitiatorStore

/-- An option of a command. -/
structure OptionName where
  /-- The name that follows two dashes. -/
  long : String
  /-- The letter that follows one dash, if there is one. -/
  letter? : Option Char := none
  deriving DecidableEq

/-- Whether an option is spelled like this. -/
def OptionName.isSpelled (o : OptionName) (spelling : List Char) : Bool :=
  spelling = '-' :: '-' :: o.long.toList || o.letter?.any fun c => spelling = ['-', c]

/-- What a word of a command can be. -/
inductive Word
  /-- A word that stands for itself. -/
  | operand
  /-- The end of the options. -/
  | dashes
  /-- An option as it is spelled, with the value in the same word if there is one. -/
  | option (spelling : List Char) (value? : Option String)
  deriving DecidableEq

namespace Word

/-- The value that follows a name in the same word.  It begins after a `=`. -/
def assigned? : List Char → Option String
  | [] => none
  | _ :: cs => some (String.ofList cs)

/-- The value that follows a letter in the same word.  A `=` before it is not part of it. -/
def attached? : List Char → Option String
  | [] => none
  | '=' :: cs => some (String.ofList cs)
  | cs => some (String.ofList cs)

/-- What a text is as a word of a command. -/
def ofChars : List Char → Word
  | ['-', '-'] => .dashes
  | '-' :: '-' :: cs =>
    .option ('-' :: '-' :: cs.takeWhile (· ≠ '=')) (assigned? (cs.dropWhile (· ≠ '=')))
  | '-' :: c :: cs => .option ['-', c] (attached? cs)
  | _ => .operand

/-- What a text is as a word of a command. -/
def ofString (s : String) : Word := ofChars s.toList

/-- Whether a word asks for help.  What follows its letter in the same word does not matter; its name
takes no value. -/
def asksHelp : Word → Bool
  | .option spelling value? =>
    spelling = ['-', 'h'] || spelling = "--help".toList && value?.isNone
  | _ => false

end Word

/-- The words of a command, sorted. -/
structure Arguments where
  /-- The operands, in order. -/
  operands : List String := []
  /-- The values of the options that are given, by name. -/
  options : List (String × String) := []
  deriving DecidableEq

namespace Arguments

/-- The arguments with one more operand in front. -/
def addOperand (a : Arguments) (operand : String) : Arguments :=
  { a with operands := operand :: a.operands }

/-- The arguments with the value of one more option, if the option is not among them. -/
def addOption? (a : Arguments) (name value : String) : Option Arguments :=
  if (a.options.lookup name).isSome then none
  else some { a with options := (name, value) :: a.options }

/-- The words of a command that has some options, sorted. -/
def ofWords? (known : List OptionName) : List String → Option Arguments
  | [] => some {}
  | word :: rest =>
    match Word.ofString word with
    | .operand => (ofWords? known rest).map (·.addOperand word)
    | .dashes => some { operands := rest }
    | .option spelling value? =>
      match known.find? (·.isSpelled spelling), value?, rest with
      | none, _, _ => none
      | some o, some value, rest => (ofWords? known rest).bind (·.addOption? o.long value)
      | some _, none, [] => none
      | some o, none, value :: rest =>
        if Word.ofString value = .operand then
          (ofWords? known rest).bind (·.addOption? o.long value)
        else none

/-- The value of an option. -/
def option? (a : Arguments) (o : OptionName) : Option String := a.options.lookup o.long

end Arguments

/-- What may stand behind the name of a command: operands in order and options, each with the texts
that will do for it. -/
structure Grammar where
  operands : List (String → Bool) := []
  options : List (OptionName × (String → Bool)) := []

namespace Grammar

/-- The grammar without an option. -/
def without (g : Grammar) (o : OptionName) : Grammar :=
  { g with options := g.options.filter (·.1 ≠ o) }

/-- Whether the words behind the name of a command ask for help.  The first word that does decides
this: nothing before it may be wrong, but something may be missing, and what follows it does not
matter. -/
def asksHelp (g : Grammar) : List String → Bool
  | [] => false
  | word :: rest =>
    match Word.ofString word with
    | .operand =>
      match g.operands with
      | [] => false
      | takes :: operands => takes word && asksHelp { g with operands } rest
    | .dashes => false
    | .option spelling value? =>
      if (Word.option spelling value?).asksHelp then true
      else
        match g.options.find? (·.1.isSpelled spelling), value?, rest with
        | none, _, _ => false
        | some (o, takes), some value, rest => takes value && asksHelp (g.without o) rest
        | some _, none, [] => false
        | some (o, takes), none, value :: rest =>
          Word.ofString value = .operand && takes value && asksHelp (g.without o) rest

end Grammar

end InitiatorStore
