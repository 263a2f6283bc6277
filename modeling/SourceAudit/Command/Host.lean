import SourceAudit.Audit.Error
import SourceAudit.CommandLine.Arguments
import SourceAudit.Provider.Local
import SourceAudit.Provider.Remote
import SourceAudit.Settings.Load
import SourceAudit.Store.Gateway
import SourceAudit.Target
import SourceAudit.Text.Style

/-!
# Hosts

The system that commands run on, over any monad, and what commands have in common.
-/

namespace SourceAudit

open Text (Style)

/-- What commands need of the system that they run on. -/
structure Host (m : Type → Type) where
  files : Files m
  transport : Transport m
  clock : m Instant
  /-- The value of an environment variable. -/
  environment : String → m (Option String)
  /-- The home directory. -/
  home : Option String
  /-- Texts are styled. -/
  inColor : Bool
  /-- Writes a result. -/
  say : String → m Unit
  /-- Writes a message that is no result. -/
  note : String → m Unit

namespace Host

variable {m : Type → Type} [Monad m]

/-- Writes a note that starts with a word in a colour. -/
def noteWith (host : Host m) (color : Text.Color) (lead text : String) : m Unit :=
  host.note ((Style.strongColored color).apply host.inColor lead ++ " " ++ text ++ "\n")

/-- A name in a text for people. -/
def named (host : Host m) (name : String) : String :=
  (Style.colored .cyan).apply host.inColor name

/-- What a source is about. -/
def target (host : Host m) : Source → m (Except AuditError Target)
  | .repository reference =>
    pure (((RepositoryRef.parse reference).map Target.ofRef).mapError .provider)
  | .checkout path => do
    pure ((← Target.ofPath host.files path).mapError .provider)

/-- The content of a source. -/
def provider (host : Host m) (s : Settings) : Source → m (Provider m)
  | .repository _ => do
    let token ← host.environment s.remote.tokenEnv
    pure ((Remote.ofSettings s.remote token).provider host.transport)
  | .checkout path => pure (.local host.files path)

/-- Opens the store that is kept in a file. -/
def openStoreFile [MonadStateOf Store m] (host : Host m) (s : Settings) :
    m (Except AuditError (Gateway m)) := do
  let path := s.storePath host.home
  match ← StoreFile.load host.files path with
  | .error e => pure (.error (.store e))
  | .ok store => do
    set store
    pure (.ok (StoreFile.gateway host.files path host.clock))

/-- Opens an empty store in memory. -/
def openMemory [MonadStateOf Store m] (host : Host m) : m (Gateway m) := do
  set ({} : Store)
  pure (Gateway.inMemory host.clock)

/-- Writes a text to a file. -/
def writeFile (host : Host m) (path text : String) : m (Except AuditError Unit) := do
  pure ((← host.files.writeText path text).mapError (.unwritable path))

/-- Writes a rendered result: to a file, or else as a result of its own. -/
def emit (host : Host m) (rendered : String) : Option String → m (Except AuditError Unit)
  | none => do
    host.say (rendered ++ "\n")
    pure (.ok ())
  | some path => do
    match ← host.writeFile path rendered with
    | .error e => pure (.error e)
    | .ok () => do
      host.noteWith .green "Success:" ("Report written to: " ++ host.named path)
      pure (.ok ())

end Host

end SourceAudit
