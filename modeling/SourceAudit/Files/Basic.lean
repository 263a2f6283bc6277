import SourceAudit.Files.Path
import SourceAudit.Text.Utf8

/-!
# Files

The operations on files that audits need, over any monad, and what is built from them. An operation may
fail; then there is a text of the operating system for it.
-/

/-! ## File faults -/

namespace SourceAudit

/-- Why an operation on files fails. -/
inductive FileFault where
  | notFound
  | exists
  | notDirectory
  | isDirectory
  | busy
  | nameTooLong
  | tooManyLinks
  | nulInPath
  | notText
  /-- A fault that only its text tells apart. -/
  | other (text : String)
deriving DecidableEq, Repr

/-- The text of a fault. -/
def FileFault.message : FileFault → String
  | notFound => "No such file or directory (os error 2)"
  | «exists» => "File exists (os error 17)"
  | notDirectory => "Not a directory (os error 20)"
  | isDirectory => "Is a directory (os error 21)"
  | busy => "Device or resource busy (os error 16)"
  | nameTooLong => "File name too long (os error 36)"
  | tooManyLinks => "Too many levels of symbolic links (os error 40)"
  | nulInPath => "file name contained an unexpected NUL byte"
  | notText => "stream did not contain valid UTF-8"
  | other text => text

end SourceAudit

/-! ## Files -/

namespace SourceAudit

/-- What a directory entry is. -/
inductive EntryKind where
  | file
  | directory
deriving DecidableEq, Repr

/-- The name of a kind of entry. -/
def EntryKind.name : EntryKind → String
  | file => "file"
  | directory => "dir"

/-- The kind of entry with exactly this name. -/
def EntryKind.ofName? (text : String) : Option EntryKind :=
  [file, directory].find? fun k => k.name == text

/-- The bytes of a file. -/
abbrev Bytes := List UInt8

/-- Operations on files. -/
structure Files (m : Type → Type) where
  /-- What a path leads to. -/
  kind? : String → m (Option EntryKind)
  /-- The bytes of the file that a path leads to. -/
  read : String → m (Except FileFault Bytes)
  /-- Makes the file that a path leads to hold these bytes. -/
  write : String → Bytes → m (Except FileFault Unit)
  /-- Makes one directory. -/
  makeDirectory : String → m (Except FileFault Unit)
  /-- Moves a file, replacing the file at its new path. -/
  rename : String → String → m (Except FileFault Unit)
  /-- The files and directories in a directory, in name order; links are left out. -/
  list : String → m (Except FileFault (List (String × EntryKind)))
  /-- The path without links, `.` and `..`. -/
  canonical : String → m (Except FileFault String)

namespace Files

variable {m : Type → Type} [Monad m]

/-- A path leads to a directory. -/
def isDirectory (files : Files m) (path : String) : m Bool := do
  pure ((← files.kind? path) == some .directory)

/-- A path leads to a file. -/
def isFile (files : Files m) (path : String) : m Bool := do
  pure ((← files.kind? path) == some .file)

/-- A path leads to something. -/
def isThere (files : Files m) (path : String) : m Bool := do
  pure (← files.kind? path).isSome

/-- The text of the file that a path leads to. -/
def readText (files : Files m) (path : String) : m (Except FileFault String) := do
  match ← files.read path with
  | .error e => pure (.error e)
  | .ok bytes =>
    match Text.Utf8.decode? bytes with
    | some text => pure (.ok (String.ofList text))
    | none => pure (.error .notText)

/-- Makes the file that a path leads to hold this text. -/
def writeText (files : Files m) (path text : String) : m (Except FileFault Unit) :=
  files.write path (Text.Utf8.encode text.toList)

/-- Makes the first of these directories; the others are the ones that it is in, innermost first. -/
def makeDirectoryIn (files : Files m) : List (List Char) → m (Except FileFault Unit)
  | [] => pure (.error (.other "failed to create whole tree"))
  | path :: outer => do
    if path = [] then
      pure (.ok ())
    else
      let settle (e : FileFault) : m (Except FileFault Unit) := do
        if ← files.isDirectory (String.ofList path) then pure (.ok ()) else pure (.error e)
      match ← files.makeDirectory (String.ofList path) with
      | .ok () => pure (.ok ())
      | .error .notFound =>
        match ← makeDirectoryIn files outer with
        | .error e => pure (.error e)
        | .ok () =>
          match ← files.makeDirectory (String.ofList path) with
          | .ok () => pure (.ok ())
          | .error e => settle e
      | .error e => settle e

/-- Makes a directory and those that it is in, as far as they are missing. -/
def makeDirectories (files : Files m) (path : String) : m (Except FileFault Unit) :=
  files.makeDirectoryIn (Path.ancestors path.toList)

/-- The operations, run in another monad. -/
def lift {n : Type → Type} (run : {α : Type} → m α → n α) (files : Files m) : Files n where
  kind? path := run (files.kind? path)
  read path := run (files.read path)
  write path bytes := run (files.write path bytes)
  makeDirectory path := run (files.makeDirectory path)
  rename path target := run (files.rename path target)
  list path := run (files.list path)
  canonical path := run (files.canonical path)

end Files

end SourceAudit
