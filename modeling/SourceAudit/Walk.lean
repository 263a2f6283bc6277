import SourceAudit.NameSet
import SourceAudit.Provider.Basic
import SourceAudit.Settings.Load

/-!
# Walks

A walk lists directories level by level, down to a depth, and collects the candidate files: those
with a wanted extension that no pattern excludes. It stops when there are more than enough.
-/

namespace SourceAudit

/-- What a walk does. -/
structure WalkOptions where
  maxDepth : Nat
  maxCandidates : Nat
  extensions : List String
  ignoreDirs : List String
  exclude : List Glob

/-- What a walk finds. -/
structure Walk where
  /-- The candidates in the order of their discovery, each once. -/
  files : List String := []
  /-- The directories that could not be listed, each once. -/
  unreadable : List String := []
  /-- There were more candidates than wanted. -/
  capped : Bool := false
deriving DecidableEq, Repr

namespace WalkOptions

/-- The options in settings, with their globs. -/
def ofSettings (s : AnalysisSettings) (exclude : List Glob) : WalkOptions where
  maxDepth := s.maxDepth
  maxCandidates := s.maxCandidates
  extensions := s.extensions
  ignoreDirs := s.ignoreDirs
  exclude := exclude

/-- A directory with this name is entered. -/
def enters (o : WalkOptions) (name : String) : Bool :=
  !(name.toList.head? == some '.') && !o.ignoreDirs.contains name

/-- The extension of a path, without its dot. -/
def extension? (path : String) : Option (List Char) :=
  match Path.fileName? path.toList with
  | none => none
  | some name =>
    let stem := Path.stem name
    if stem.length < name.length then some (name.drop (stem.length + 1)) else none

/-- The path ends in a wanted extension. -/
def wants (o : WalkOptions) (path : String) : Bool :=
  match extension? path with
  | some e => o.extensions.any fun want => Text.eqIgnoringAsciiCase want.toList e
  | none => false

/-- A file with this path is a candidate. -/
def isCandidate (o : WalkOptions) (path : String) : Bool :=
  o.wants path && !o.exclude.any (·.accepts path)

end WalkOptions

namespace Walk

/-- The walk after a file; a candidate beyond those wanted ends it. -/
def addFile (o : WalkOptions) (w : Walk) (path : String) : Walk :=
  if !o.isCandidate path || w.files.contains path then w
  else if o.maxCandidates ≤ w.files.length then { w with capped := true }
  else { w with files := w.files ++ [path] }

/-- The walk after the entries of a listing, and the directories to enter. -/
def addEntries (o : WalkOptions) : Walk → List DirectoryEntry → Walk × List String
  | w, [] => (w, [])
  | w, e :: rest =>
    match e.kind with
    | .directory =>
      let (w, directories) := addEntries o w rest
      (w, if o.enters e.name then e.path :: directories else directories)
    | .file =>
      let w := addFile o w e.path
      if w.capped then (w, []) else addEntries o w rest

/-- The walk after a directory that could not be listed. -/
def addUnreadable (w : Walk) (directory : String) : Walk :=
  if w.unreadable.contains directory then w
  else { w with unreadable := w.unreadable ++ [directory] }

variable {m : Type → Type} [Monad m]

/-- Lists the directories of one level. Gives those of the next. -/
def level (p : Provider m) (owner repo : String) (o : WalkOptions) :
    Walk → List String → m (Walk × List String)
  | w, [] => pure (w, [])
  | w, directory :: rest => do
    match ← p.list owner repo directory with
    | .error _ => level p owner repo o (w.addUnreadable directory) rest
    | .ok entries =>
      let (w, below) := addEntries o w entries
      if w.capped then
        pure (w, [])
      else
        let (w, more) ← level p owner repo o w rest
        pure (w, below ++ more)

/-- Walks so many levels from directories on. -/
def levels (p : Provider m) (owner repo : String) (o : WalkOptions) :
    (depth : Nat) → Walk → List String → m Walk
  | 0, w, _ => pure w
  | depth + 1, w, directories =>
    if directories.isEmpty || w.capped then pure w
    else do
      let (w, below) ← level p owner repo o w directories
      levels p owner repo o depth w below

/-- Walks from a directory on. -/
def into (p : Provider m) (owner repo : String) (o : WalkOptions) (w : Walk) (start : String) :
    m Walk :=
  levels p owner repo o o.maxDepth w
    [String.ofList (Text.trimWhile (· == '/') start.toList)]

/-- Walks from each of the source roots on. -/
def roots (p : Provider m) (owner repo : String) (o : WalkOptions) : Walk → List String → m Walk
  | w, [] => pure w
  | w, root :: rest => do
    if w.capped then pure w else roots p owner repo o (← into p owner repo o w root) rest

/-- The name of a module in a file: its name up to the last dot. -/
def moduleOf (name : List Char) : List Char :=
  match (name.reverse.dropWhile (· ≠ '.')) with
  | _ :: stem => stem.reverse
  | [] => name

/-- The names of modules along the path of a file: its directories and its own. -/
def modulesAlong (path : String) : List (List Char) :=
  let segments := Path.segments path.toList
  let own := moduleOf ((segments.getLast?).getD [])
  segments.dropLast.filter (!·.isEmpty) ++
    if own.isEmpty || own = "__init__".toList then [] else [own]

/-- The modules that a repository with these candidates defines. -/
def moduleNames (w : Walk) : NameSet :=
  NameSet.ofList ((w.files.flatMap modulesAlong).map String.ofList)

end Walk

end SourceAudit
