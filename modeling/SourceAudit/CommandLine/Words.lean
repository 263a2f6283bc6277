import SourceAudit.CommandLine.Usage

/-!
# Words of a command line

Words are read from left to right. A word is an option, short ones together in one word, or the value
of the option in front of it, or an operand. The value of an option is taken only when the next
argument is taken or the words end, and so is the fault of a missing one; what is wrong with a later
word can thus come first.
-/

namespace SourceAudit

/-- What a word is by its looks. -/
inductive Word where
  /-- An option by its long name, perhaps with a value. -/
  | long (name : List Char) (value : Option (List Char))
  /-- Options by their letters; the rest of the word may be the value of the last one. -/
  | letters (cluster : List Char)
  /-- A value or an operand. -/
  | plain
deriving DecidableEq, Repr

namespace Word

/-- A long option without the dashes in front. -/
def ofLong (text : List Char) : Word :=
  match text.span (· ≠ '=') with
  | (name, '=' :: value) => .long name (some value)
  | (name, _) => .long name none

/-- The looks of a word. -/
def classify (word : String) : Word :=
  match word.toList with
  | '-' :: '-' :: text => ofLong text
  | '-' :: c :: text => .letters (c :: text)
  | _ => .plain

end Word

/-- How an option changes what has been given so far. -/
inductive Effect (σ : Type) where
  /-- The option stands alone. -/
  | alone (take : σ → Except Usage σ)
  /-- The option takes a value. -/
  | withValue (take : String → σ → Except Usage σ)

/-- An option. -/
structure Switch (σ : Type) where
  /-- The name after two dashes. -/
  long : String
  /-- The name after one dash. -/
  letter : Option Char := none
  effect : Effect σ

/-- What may be on a command line, or on its part for one command. -/
structure Grammar (σ : Type) where
  switches : List (Switch σ)
  /-- What an operand changes, if there may be one. -/
  operand : Option (String → σ → σ) := none
  /-- The commands that may follow. -/
  commands : List String := []

/-- How far the words have been read. -/
structure Reading (σ : Type) where
  /-- What the arguments taken so far come to. -/
  given : σ
  /-- The option that is still to be taken, with its value once that has come. -/
  pending : Option ((String → σ → Except Usage σ) × Option String) := none
  /-- The operand has come. -/
  hasOperand : Bool := false

namespace Reading

variable {σ : Type}

/-- An option waits for its value. -/
def awaits (r : Reading σ) : Bool :=
  match r.pending with
  | some (_, none) => true
  | _ => false

/-- Takes the option that is still to be taken. -/
def settle (r : Reading σ) : Except Usage (Reading σ) :=
  match r.pending with
  | none => .ok r
  | some (_, none) => .error .badValue
  | some (take, some value) =>
    (take value r.given).map fun given => { r with given, pending := none }

/-- Takes an argument after the one before it. -/
def take (r : Reading σ) (change : σ → Except Usage σ) : Except Usage (Reading σ) := do
  let r ← r.settle
  pure { r with given := ← change r.given }

/-- Leaves an option waiting for its value. -/
def await (r : Reading σ) (change : String → σ → Except Usage σ) :
    Except Usage (Reading σ) := do
  pure { ← r.settle with pending := some (change, none) }

end Reading

namespace Grammar

variable {σ : Type}

/-- The effect of the option with a long name. -/
def long? (g : Grammar σ) (name : List Char) : Option (Effect σ) :=
  (g.switches.find? fun s => s.long.toList == name).map (·.effect)

/-- The effect of the option with a letter. -/
def letter? (g : Grammar σ) (c : Char) : Option (Effect σ) :=
  (g.switches.find? fun s => s.letter == some c).map (·.effect)

/-- Reads an option by its long name. -/
def readLong (g : Grammar σ) (r : Reading σ) (name : List Char) (value : Option (List Char)) :
    Except Usage (Reading σ) :=
  match g.long? name, value with
  | none, _ => .error .unknownArgument
  | some (.alone change), none => r.take change
  | some (.alone _), some _ => .error .unneededValue
  | some (.withValue change), none => r.await change
  | some (.withValue change), some value => r.take (change (String.ofList value))

/-- Reads options by their letters. -/
def readLetters (g : Grammar σ) (r : Reading σ) : List Char → Except Usage (Reading σ)
  | [] => .ok r
  | c :: rest =>
    match g.letter? c, rest with
    | none, _ => .error .unknownArgument
    | some (.alone change), rest =>
      match r.take change with
      | .error u => .error u
      | .ok r => readLetters g r rest
    | some (.withValue change), [] => r.await change
    | some (.withValue change), '=' :: value => r.take (change (String.ofList value))
    | some (.withValue change), value => r.take (change (String.ofList value))

/-- Reads an operand. -/
def readOperand (g : Grammar σ) (r : Reading σ) (word : String) : Except Usage (Reading σ) :=
  match g.operand with
  | some place =>
    if r.hasOperand then .error .unknownArgument
    else do pure { ← r.take fun given => .ok (place word given) with hasOperand := true }
  | none =>
    if g.commands.isEmpty || g.commands.contains word then .error .unknownArgument
    else .error .unknownCommand

/-- Reads a word. -/
def readWord (g : Grammar σ) (r : Reading σ) (word : String) : Except Usage (Reading σ) :=
  match Word.classify word, r.pending with
  | .long name value, _ => g.readLong r name value
  | .letters cluster, _ => g.readLetters r cluster
  | .plain, some (change, none) => .ok { r with pending := some (change, some word) }
  | .plain, _ => g.readOperand r word

/-- Reads words that are all operands. -/
def readOperands (g : Grammar σ) (r : Reading σ) : List String → Except Usage (Reading σ)
  | [] => .ok r
  | word :: rest =>
    match g.readOperand r word with
    | .error u => .error u
    | .ok r => readOperands g r rest

/-- The word after which all words are operands. -/
def escape : String := "--"

/-- Reads words up to a command, which comes with the words after it. -/
def read (g : Grammar σ) (r : Reading σ) :
    List String → Except Usage (Reading σ × Option (String × List String))
  | [] => .ok (r, none)
  | word :: rest =>
    if !r.awaits && g.commands.contains word then .ok (r, some (word, rest))
    else if word = escape then (g.readOperands r rest).map fun r => (r, none)
    else
      match g.readWord r word with
      | .error u => .error u
      | .ok r => read g r rest

/-- Reads all words. -/
def readAll (g : Grammar σ) (given : σ) (words : List String) : Except Usage σ := do
  let (r, _) ← g.read { given } words
  pure (← r.settle).given

end Grammar

end SourceAudit
