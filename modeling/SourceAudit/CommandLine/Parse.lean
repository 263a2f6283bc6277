import SourceAudit.CommandLine.Arguments
import SourceAudit.CommandLine.Words
import SourceAudit.Decimal.Bound
import SourceAudit.Text.Number

/-!
# Command lines

The options of the program and of its commands, and the reading of a command line with them.
-/

namespace SourceAudit

/-- What has been given on a command line, or on its part for one command. -/
structure Given where
  verbosity : Nat := 0
  config : Option String := none
  logFormat : Option LogFormat := none
  repository : Option String := none
  path : Option String := none
  format : Option OutputFormat := none
  output : Option String := none
  detailed : Bool := false
  maxFiles : Option Nat := none
  maxDepth : Option Nat := none
  concurrency : Option Nat := none
  branches : List String := []
  store : Option String := none
  noStore : Bool := false
  shown : Option String := none
  deleted : Option String := none
  limit : Option Nat := none
  force : Bool := false
deriving DecidableEq, Repr

namespace Value

/-- A path, which is not empty. -/
def path (text : String) : Except Usage String :=
  if text = "" then .error .badValue else .ok text

/-- One of some choices by its name. -/
def choice {α : Type} (all : List α) (name : α → String) (text : String) : Except Usage α :=
  match all.find? fun a => name a == text with
  | some a => .ok a
  | none => .error .badValue

/-- The digits of a number behind an optional sign. -/
def digits : List Char → List Char
  | '+' :: rest => rest
  | text => text

/-- A number of 64 bits. -/
def number (text : String) : Except Usage Nat :=
  let digits := digits text.toList
  let n := Text.natOfDigits 10 digits
  if digits.isEmpty || !digits.all Char.isDigit || !Decimal.fitsUnsigned n then .error .badNumber
  else .ok n

end Value

namespace Effect

/-- Takes a value that may be given once. -/
def once {α : Type} (read : String → Except Usage α) (given : Given → Option α)
    (set : Given → α → Given) : Effect Given :=
  .withValue fun text g => if (given g).isSome then .error .conflict else (read text).map (set g)

/-- Takes note of an option that may be given once. -/
def noteOnce (given : Given → Bool) (set : Given → Given) : Effect Given :=
  .alone fun g => if given g then .error .conflict else .ok (set g)

end Effect

namespace Switch

/-- The options that may stand anywhere. -/
def globals : List (Switch Given) :=
  [{ long := "verbose", letter := some 'v'
     effect := .alone fun g => .ok { g with verbosity := g.verbosity + 1 } },
   { long := "config", letter := some 'c'
     effect := .once Value.path (·.config) fun g v => { g with config := some v } },
   { long := "log-format"
     effect := .once (Value.choice LogFormat.all LogFormat.name) (·.logFormat)
       fun g v => { g with logFormat := some v } },
   { long := "help", letter := some 'h', effect := .alone fun _ => .error .help },
   { long := "version", letter := some 'V', effect := .alone fun _ => .error .version }]

/-- A local checkout. -/
def path : Switch Given where
  long := "path"
  letter := some 'p'
  effect := .once Value.path (·.path) fun g v => { g with path := some v }

/-- The form of the result. -/
def format : Switch Given where
  long := "format"
  letter := some 'f'
  effect := .once (Value.choice OutputFormat.all OutputFormat.name) (·.format)
    fun g v => { g with format := some v }

/-- The file to write. -/
def output : Switch Given where
  long := "output"
  letter := some 'o'
  effect := .once Value.path (·.output) fun g v => { g with output := some v }

/-- The store file. -/
def store : Switch Given where
  long := "store"
  effect := .once Value.path (·.store) fun g v => { g with store := some v }

/-- The options of an audit. -/
def audit : List (Switch Given) :=
  [path, format, output,
   { long := "detailed"
     effect := .noteOnce (·.detailed) fun g => { g with detailed := true } },
   { long := "max-files"
     effect := .once Value.number (·.maxFiles) fun g v => { g with maxFiles := some v } },
   { long := "max-depth"
     effect := .once Value.number (·.maxDepth) fun g v => { g with maxDepth := some v } },
   { long := "concurrency"
     effect := .once Value.number (·.concurrency) fun g v => { g with concurrency := some v } },
   { long := "branch", letter := some 'b'
     effect := .withValue fun v g => .ok { g with branches := g.branches ++ [v] } },
   store,
   { long := "no-store"
     effect := .noteOnce (·.noStore) fun g => { g with noStore := true } }]

/-- The options of a look at a policy. -/
def policy : List (Switch Given) :=
  [path, format]

/-- The options of a look at past audits. -/
def history : List (Switch Given) :=
  [path,
   { long := "show"
     effect := .once .ok (·.shown) fun g v => { g with shown := some v } },
   { long := "delete"
     effect := .once .ok (·.deleted) fun g v => { g with deleted := some v } },
   { long := "limit", letter := some 'n'
     effect := .once Value.number (·.limit) fun g v => { g with limit := some v } },
   format, store]

/-- The options of the making of a file of settings. -/
def init : List (Switch Given) :=
  [{ long := "force", letter := some 'f'
     effect := .noteOnce (·.force) fun g => { g with force := true } },
   output]

end Switch

/-- The name of a command. -/
inductive CommandName where
  | audit
  | policy
  | history
  | init
deriving DecidableEq, Repr

namespace CommandName

/-- All names of commands. -/
def all : List CommandName := [audit, policy, history, init]

/-- The text of a name. -/
def text : CommandName → String
  | audit => "audit"
  | policy => "policy"
  | history => "history"
  | init => "init"

/-- The command with a name. -/
def ofText? (text : String) : Option CommandName :=
  all.find? fun c => c.text == text

/-- The word that asks for help in the place of a command. -/
def help : String := "help"

/-- The words in the place of a command. -/
def words : List String :=
  all.map (·.text) ++ [help]

end CommandName

namespace Grammar

/-- An operand is the repository. -/
def setRepository (word : String) (g : Given) : Given :=
  { g with repository := some word }

/-- What is in front of a command. -/
def outer : Grammar Given where
  switches := Switch.globals
  commands := CommandName.words

/-- What is behind a command. -/
def ofCommand : CommandName → Grammar Given
  | .audit => { switches := Switch.globals ++ Switch.audit, operand := some setRepository }
  | .policy => { switches := Switch.globals ++ Switch.policy, operand := some setRepository }
  | .history => { switches := Switch.globals ++ Switch.history, operand := some setRepository }
  | .init => { switches := Switch.globals ++ Switch.init }

end Grammar

namespace Given

/-- Arguments that exclude each other are both given. -/
def isConflicting (g : Given) : Bool :=
  (g.repository.isSome && g.path.isSome) || (g.store.isSome && g.noStore) ||
    (g.shown.isSome && g.deleted.isSome)

/-- What the command is about: the checkout in the working directory unless something else is
given. -/
def source (g : Given) : Source :=
  match g.repository with
  | some reference => .repository reference
  | none => .checkout (g.path.getD ".")

/-- What is wanted of past audits. -/
def historyRequest (g : Given) : HistoryRequest :=
  match g.deleted, g.shown with
  | some start, _ => .delete start
  | none, some start => .show start
  | none, none => .list (g.limit.getD 10)

/-- The command with what is given for it. -/
def toCommand (g : Given) : CommandName → Command
  | .audit => .audit
      { source := g.source
        format := g.format.getD .terminal
        output := g.output
        detailed := g.detailed
        maxFiles := g.maxFiles
        maxDepth := g.maxDepth
        concurrency := g.concurrency
        branches := g.branches
        store := g.store
        noStore := g.noStore }
  | .policy => .policy { source := g.source, format := g.format.getD .terminal }
  | .history => .history
      { source := g.source
        request := g.historyRequest
        format := g.format.getD .terminal
        store := g.store }
  | .init => .init { force := g.force, output := g.output }

/-- What is given for every command. What is given behind the command counts before what is given in
front of it. -/
def globals (outer inner : Given) : GlobalArguments where
  verbosity := if inner.verbosity = 0 then outer.verbosity else inner.verbosity
  config := inner.config <|> outer.config
  logFormat := ((inner.logFormat <|> outer.logFormat).getD .text)

end Given

namespace Invocation

/-- What a request for help comes to; the words may name one command. -/
def helpOn : List String → Usage
  | [] => .help
  | [word] => if CommandName.words.contains word then .help else .unknownCommand
  | _ => .unknownCommand

/-- Reads the words behind a command. -/
def parseBehind (c : CommandName) (words : List String) : Except Usage Given := do
  let given ← (Grammar.ofCommand c).readAll {} words
  if given.isConflicting then .error .conflict else pure given

/-- Reads the words of a command line. -/
def parse (words : List String) : Except Usage Invocation := do
  let (outer, rest) ← Grammar.outer.read { given := {} } words
  match rest with
  | none =>
    let outer ← outer.settle
    .error (if outer.given = {} then .nothing else .missingCommand)
  | some (word, words) =>
    match CommandName.ofText? word with
    | none => .error (helpOn words)
    | some c =>
      let inner ← parseBehind c words
      let outer ← outer.settle
      pure { globals := Given.globals outer.given inner, command := inner.toCommand c }

end Invocation

end SourceAudit
