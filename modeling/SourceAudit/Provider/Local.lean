import SourceAudit.Provider.Basic

/-!
# Local repositories

The content of a checkout on disk. Owners, names and branches do not matter.
-/

namespace SourceAudit

namespace LocalProvider

/-- The path leads out of where it starts, or may do so. -/
def escapes (path : String) : Bool :=
  (Path.parts path.toList).any fun p => p = .up || p = .root

/-- The path of a file of the checkout. -/
def resolve (root path : String) : Except ProviderError String :=
  if escapes path then .error (.badPath path)
  else .ok (String.ofList (Path.join root.toList path.toList))

/-- The path of an entry in a directory. -/
def entryPath (directory name : String) : String :=
  if directory = "" then name
  else String.ofList (Text.dropEndWhile (· == '/') directory.toList) ++ "/" ++ name

variable {m : Type → Type} [Monad m]

/-- The text of a file; a directory has none. -/
def fetch (files : Files m) (root path : String) : m (Except ProviderError (Option String)) := do
  match resolve root path with
  | .error e => pure (.error e)
  | .ok full =>
    if ← files.isDirectory full then
      pure (.ok none)
    else
      match ← files.read full with
      | .ok bytes => pure (.ok (some (String.ofList (Text.Utf8.decodeLossy bytes))))
      | .error .notFound => pure (.ok none)
      | .error fault => pure (.error (.unreadable path fault))

/-- The entries of a directory; one that is not there has none. -/
def list (files : Files m) (root path : String) :
    m (Except ProviderError (List DirectoryEntry)) := do
  match resolve root path with
  | .error e => pure (.error e)
  | .ok full =>
    if ← files.isThere full then
      match ← files.list full with
      | .ok entries =>
        pure (.ok (entries.map fun e => ⟨e.1, entryPath path e.1, e.2⟩))
      | .error fault => pure (.error (.unreadable path fault))
    else
      pure (.ok [])

end LocalProvider

/-- The content of the checkout in a directory. -/
def Provider.local {m : Type → Type} [Monad m] (files : Files m) (root : String) : Provider m where
  fetch _ _ path _ := LocalProvider.fetch files root path
  list _ _ path := LocalProvider.list files root path

end SourceAudit
