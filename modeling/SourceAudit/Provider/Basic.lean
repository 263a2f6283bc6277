import SourceAudit.Files.Basic

/-!
# Providers

A provider gives the files of repositories and the listings of their directories.
-/

/-! ## Provider errors -/

namespace SourceAudit

/-- Why the content of a repository cannot be had. -/
inductive ProviderError where
  /-- The request did not get through. -/
  | network (url message : String)
  /-- The remote API answers no more until a time in seconds since 1970, if it tells one. -/
  | rateLimited (reset : Option Int)
  /-- The remote API answers with an unexpected status. -/
  | status (code : Nat) (url : String)
  /-- The path is no path inside the repository. -/
  | badPath (path : String)
  /-- The text names no repository. -/
  | badRepository (name : String)
  /-- The answer cannot be decoded. -/
  | undecodable (url message : String)
  /-- The file cannot be read. -/
  | unreadable (path : String) (fault : FileFault)
deriving DecidableEq, Repr

/-- The text of an error. -/
def ProviderError.message : ProviderError → String
  | network url message => "Network error while requesting '" ++ url ++ "': " ++ message
  | rateLimited none => "Rate limited by remote API"
  | rateLimited (some reset) => "Rate limited by remote API (resets at " ++ reset.repr ++ ")"
  | status code url => "HTTP " ++ code.repr ++ " for '" ++ url ++ "'"
  | badPath path => "Invalid path '" ++ path ++ "'"
  | badRepository name => "Invalid repository reference '" ++ name ++ "' (expected owner/name)"
  | undecodable url message => "Failed to decode response for '" ++ url ++ "': " ++ message
  | unreadable path fault => "Failed to read '" ++ path ++ "': " ++ fault.message

end SourceAudit

/-! ## Providers -/

namespace SourceAudit

/-- An entry of a directory. -/
structure DirectoryEntry where
  /-- The last name of the path. -/
  name : String
  /-- The path from the root of the repository. -/
  path : String
  kind : EntryKind
deriving DecidableEq, Repr

/-- The entry of a path. -/
def DirectoryEntry.ofPath (kind : EntryKind) (path : String) : DirectoryEntry where
  name := String.ofList (((Path.segments path.toList).getLast?).getD [])
  path := path
  kind := kind

/-- The content of repositories. -/
structure Provider (m : Type → Type) where
  /-- The text of a file on a branch, or `none` if there is no such file. -/
  fetch : (owner repo path branch : String) → m (Except ProviderError (Option String))
  /-- One level of a directory; the empty path is the root. -/
  list : (owner repo path : String) → m (Except ProviderError (List DirectoryEntry))

namespace Provider

variable {m : Type → Type} [Monad m]

/-- The text of a file on the first of the branches that has it; `last` is the last error so far. -/
def fetchFrom (p : Provider m) (owner repo path : String) (last : Option ProviderError) :
    List String → m (Except ProviderError (Option String))
  | [] =>
    match last with
    | some e => pure (.error e)
    | none => pure (.ok none)
  | branch :: rest => do
    match ← p.fetch owner repo path branch with
    | .ok (some content) => pure (.ok (some content))
    | .ok none => fetchFrom p owner repo path last rest
    | .error e => fetchFrom p owner repo path (some e) rest

/-- The text of a file on the first of the branches that has it. An error on one branch does not
keep the next from being tried; without the file the last error stands. -/
def fetchAny (p : Provider m) (owner repo path : String) (branches : List String) :
    m (Except ProviderError (Option String)) :=
  p.fetchFrom owner repo path none branches

end Provider

end SourceAudit
