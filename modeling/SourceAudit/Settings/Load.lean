import SourceAudit.Files.Basic
import SourceAudit.Glob.Expression
import SourceAudit.Glob.Parser
import SourceAudit.Settings.Document

/-!
# Loading settings

Settings are read from the file that is asked for, or else from the first file of the usual name: in
the working directory, then in the home directory. Without any file the defaults hold.
-/

/-! ## Settings errors -/

namespace SourceAudit

/-- Why settings cannot be used. -/
inductive SettingsError where
  /-- The file of settings cannot be read. -/
  | unreadable (path : String) (fault : FileFault)
  /-- The text is no document of settings. -/
  | malformed
  /-- A pattern of excluded paths is no glob. -/
  | badPattern (pattern : String) (fault : Glob.Fault)
  /-- A pattern of excluded paths, one of these, is nested too deep. -/
  | deepPattern (patterns : List String) (fault : Glob.DepthFault)
deriving DecidableEq, Repr

/-- The text of an error. -/
def SettingsError.message : SettingsError → String
  | unreadable path fault => "Failed to read config file '" ++ path ++ "': " ++ fault.message
  | malformed => "Failed to parse config"
  | badPattern pattern fault =>
    "Invalid exclude pattern '" ++ pattern ++ "': error parsing glob '" ++ pattern ++ "': " ++
      fault.message
  | deepPattern patterns fault =>
    "Invalid exclude pattern '" ++ ", ".intercalate patterns ++ "': " ++ fault.message

end SourceAudit

/-! ## Loading settings -/

namespace SourceAudit.Settings

/-- The usual name of a file of settings. -/
def fileName : String := ".complyscan.toml"

/-- Reads a list of glob patterns; the first that is no glob is the error. -/
def readGlobs : List String → Except SettingsError (List Glob)
  | [] => .ok []
  | pattern :: rest =>
    match Glob.parse pattern with
    | .error fault => .error (.badPattern pattern fault)
    | .ok glob => (readGlobs rest).map (glob :: ·)

/-- The globs of the paths that are no candidates. -/
def excludeGlobs (s : Settings) : Except SettingsError (List Glob) :=
  match readGlobs s.analysis.exclude with
  | .error e => .error e
  | .ok globs =>
    match Glob.depthFault? globs with
    | some fault => .error (.deepPattern s.analysis.exclude fault)
    | none => .ok globs

/-- The settings that a document holds. -/
def ofDocument (document : String) : Except SettingsError Settings :=
  match parse? document with
  | none => .error .malformed
  | some s => .ok s

/-- The settings that a document holds, if all its patterns are globs. -/
def ofDocumentChecked (document : String) : Except SettingsError Settings :=
  match ofDocument document with
  | .error e => .error e
  | .ok s => s.excludeGlobs.map fun _ => s

variable {m : Type → Type} [Monad m]

/-- The settings in a file. -/
def load (files : Files m) (path : String) : m (Except SettingsError Settings) := do
  match ← files.readText path with
  | .error fault => pure (.error (.unreadable path fault))
  | .ok text => pure (ofDocumentChecked text)

/-- The settings in the first of these paths that leads to a file. -/
def loadFirst (files : Files m) : List String → m (Except SettingsError Settings)
  | [] => pure (.ok {})
  | path :: rest => do
    if ← files.isFile path then load files path else loadFirst files rest

/-- The path of a name in the home directory. -/
def inHome (home : String) (rest : List Char) : String :=
  String.ofList (Path.join home.toList rest)

/-- The usual settings. -/
def loadDefault (files : Files m) (home : Option String) : m (Except SettingsError Settings) :=
  loadFirst files (fileName :: home.toList.map (inHome · fileName.toList))

/-- The path of the store file. -/
def storePath (s : Settings) (home : Option String) : String :=
  match s.store.path.toList, home with
  | '~' :: '/' :: rest, some h => inHome h rest
  | _, _ => s.store.path

end SourceAudit.Settings
