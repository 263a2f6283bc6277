/-!
# Arguments

What each command can be told.
-/

namespace SourceAudit

/-- The form of a result. -/
inductive OutputFormat where
  | terminal
  | json
  | markdown
deriving DecidableEq, Repr

namespace OutputFormat

/-- All forms. -/
def all : List OutputFormat := [terminal, json, markdown]

/-- The name of a form. -/
def name : OutputFormat → String
  | terminal => "terminal"
  | json => "json"
  | markdown => "markdown"

end OutputFormat

/-- The form of the lines of a log. -/
inductive LogFormat where
  | text
  | json
deriving DecidableEq, Repr

namespace LogFormat

/-- All forms. -/
def all : List LogFormat := [text, json]

/-- The name of a form. -/
def name : LogFormat → String
  | text => "text"
  | json => "json"

end LogFormat

/-- What every command can be told. -/
structure GlobalArguments where
  /-- How much is to be logged. -/
  verbosity : Nat := 0
  /-- The file of settings. -/
  config : Option String := none
  logFormat : LogFormat := .text
deriving DecidableEq, Repr

/-- What a command is about. -/
inductive Source where
  /-- A repository on the code host. -/
  | repository (reference : String)
  /-- The checkout that a path leads to. -/
  | checkout (path : String)
deriving DecidableEq, Repr

/-- What an audit can be told. -/
structure AuditArguments where
  source : Source
  format : OutputFormat := .terminal
  /-- The file to write the report to. -/
  output : Option String := none
  /-- Reports list files. -/
  detailed : Bool := false
  maxFiles : Option Nat := none
  maxDepth : Option Nat := none
  concurrency : Option Nat := none
  /-- The branches to fetch from, unless there are none. -/
  branches : List String := []
  /-- The path of the store file. -/
  store : Option String := none
  /-- The audit is not kept. -/
  noStore : Bool := false
deriving DecidableEq, Repr

/-- What a look at a policy can be told. -/
structure PolicyArguments where
  source : Source
  format : OutputFormat := .terminal
deriving DecidableEq, Repr

/-- What is wanted of past audits. -/
inductive HistoryRequest where
  /-- The newest audits, up to a number. -/
  | list (limit : Nat)
  /-- The audit whose identity starts so. -/
  | show (start : String)
  /-- The end of the audit whose identity starts so. -/
  | delete (start : String)
deriving DecidableEq, Repr

/-- What a look at past audits can be told. -/
structure HistoryArguments where
  source : Source
  request : HistoryRequest
  format : OutputFormat := .terminal
  /-- The path of the store file. -/
  store : Option String := none
deriving DecidableEq, Repr

/-- What the making of a file of settings can be told. -/
structure InitArguments where
  /-- A file that is there is replaced. -/
  force : Bool := false
  /-- The path of the file. -/
  output : Option String := none
deriving DecidableEq, Repr

/-- A command with its arguments. -/
inductive Command where
  /-- Audit a repository. -/
  | audit (arguments : AuditArguments)
  /-- Show the policy that a repository declares. -/
  | policy (arguments : PolicyArguments)
  /-- Show past audits, or delete one. -/
  | history (arguments : HistoryArguments)
  /-- Make a file of settings. -/
  | init (arguments : InitArguments)
deriving DecidableEq, Repr

/-- What a command line asks for. -/
structure Invocation where
  globals : GlobalArguments
  command : Command
deriving DecidableEq, Repr

end SourceAudit
