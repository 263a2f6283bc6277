import SourceAudit.Command.Audit
import SourceAudit.Command.History
import SourceAudit.Command.Init
import SourceAudit.Command.Policy
import SourceAudit.CommandLine.Parse

/-!
# The program

A command line is read, the settings are loaded, and the command runs. How that ends gives the number
that the process ends with.
-/

namespace SourceAudit

/-- How a run of the program ends. -/
inductive Ending where
  /-- The command line is no command. -/
  | usage (u : Usage)
  /-- The command ran to its end. -/
  | finished (status : ExitStatus)
  /-- The command failed. -/
  | failed (e : AuditError)
deriving DecidableEq, Repr

/-- The number that the process ends with. -/
def Ending.code : Ending → Nat
  | usage u => u.code
  | finished status => status.code
  | failed e => e.exitStatus.code

namespace Program

variable {m : Type → Type} [Monad m]

/-- The settings that a command line asks for. -/
def settings (host : Host m) (g : GlobalArguments) : m (Except SettingsError Settings) :=
  match g.config with
  | some path => Settings.load host.files path
  | none => Settings.loadDefault host.files host.home

variable [MonadStateOf Store m]

/-- Runs a command. The making of a file of settings does not need any; the other commands do. -/
def execute (host : Host m) (call : Invocation) : m (Except AuditError ExitStatus) := do
  let settings ← settings host call.globals
  match call.command, settings with
  | .init a, _ => a.run host
  | _, .error e => pure (.error (.settings e))
  | .audit a, .ok s => a.run host s
  | .policy a, .ok s => a.run host s
  | .history a, .ok s => a.run host s

/-- Runs the command that words ask for. -/
def run (host : Host m) (words : List String) : m Ending := do
  match Invocation.parse words with
  | .error u => pure (.usage u)
  | .ok call =>
    match ← execute host call with
    | .ok status => pure (.finished status)
    | .error e => pure (.failed e)

/-- Tells why a command failed. -/
def report (host : Host m) : Ending → m Unit
  | .failed e => host.note ("Error: " ++ e.message ++ "\n")
  | _ => pure ()

/-- Runs the command that words ask for and tells why it failed if it does. -/
def start (host : Host m) (words : List String) : m Ending := do
  let ending ← run host words
  report host ending
  pure ending

end Program

end SourceAudit
