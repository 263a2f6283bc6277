import SourceAudit.Files.Basic
import SourceAudit.Provider.Basic
import SourceAudit.Store.Validation
import SourceAudit.Url.Basic

/-!
# Targets

What an audit is about: a repository on a code host, or a checkout on disk.
-/

namespace SourceAudit

open Text

/-- Owner and name of a repository on the code host. -/
structure RepositoryRef where
  owner : String
  name : String
deriving DecidableEq, Repr

namespace RepositoryRef

/-- Drops a mark from the end of a text as often as it is there. The fuel bounds the text. -/
def dropMarks (mark : List Char) : (fuel : Nat) → List Char → List Char
  | 0, text => text
  | fuel + 1, text =>
    if mark.isSuffixOf text then dropMarks mark fuel (text.take (text.length - mark.length))
    else text

/-- The name of a repository without the marks of a clone URL. -/
def withoutCloneMark (name : List Char) : List Char :=
  dropMarks ".git".toList name.length name

/-- The path of a repository in the texts that may name it: a URL, or a path with or without the
host. -/
def pathOf? (text : List Char) : Option (List Char) :=
  if "http://".toList.isPrefixOf text || "https://".toList.isPrefixOf text then
    match Url.parse text with
    | .ok u => some u.path
    | .error _ => none
  else
    let host := "github.com/".toList
    some (if host.isPrefixOf text then text.drop host.length else text)

/-- Reads a reference to a repository. -/
def parse? (text : String) : Option RepositoryRef :=
  match pathOf? (trim text.toList) with
  | none => none
  | some path =>
    match cut '/' (trimWhile (· == '/') path) with
    | owner :: name :: _ =>
      let name := withoutCloneMark name
      if owner.isEmpty || name.isEmpty then none
      else some ⟨String.ofList owner, String.ofList name⟩
    | _ => none

/-- Reads a reference to a repository. -/
def parse (text : String) : Except ProviderError RepositoryRef :=
  match parse? text with
  | some r => .ok r
  | none => .error (.badRepository text)

/-- Owner and name. -/
def fullName (r : RepositoryRef) : String :=
  r.owner ++ "/" ++ r.name

/-- The address of the repository for people. -/
def url (r : RepositoryRef) : String :=
  "https://github.com/" ++ r.fullName

end RepositoryRef

/-- What an audit is about. -/
structure Target where
  owner : String
  name : String
  url : String
deriving DecidableEq, Repr

namespace Target

/-- Owner and name. -/
def fullName (t : Target) : String :=
  t.owner ++ "/" ++ t.name

/-- A repository on the code host. -/
def ofRef (r : RepositoryRef) : Target :=
  ⟨r.owner, r.name, r.url⟩

/-- The owner of all checkouts on disk. -/
def localOwner : String := "local"

/-- The name for the root directory, which has none. -/
def rootName : String := "checkout"

/-- The name of a directory with what no name of a repository may hold replaced. -/
def repositoryName (directory : List Char) : String :=
  String.ofList (directory.map fun c => if Validation.isNameChar c then c else '-')

/-- The checkout in the directory that names lead to from the root. Names are bytes here; if the last
one is no text, the checkout gets the name for the root. -/
def ofDirectory (names : List Bytes) : Target where
  owner := localOwner
  name := repositoryName ((names.getLast?.bind Text.Utf8.decode?).getD rootName.toList)
  url := String.ofList (Url.ofDirectory names)

/-- The names in a canonical path. -/
def namesIn (canonical : String) : List Bytes :=
  ((Path.segments canonical.toList).filter (!·.isEmpty)).map Text.Utf8.encode

/-- The checkout that a path leads to. -/
def ofPath {m : Type → Type} [Monad m] (files : Files m) (path : String) :
    m (Except ProviderError Target) := do
  match ← files.canonical path with
  | .ok canonical => pure (.ok (ofDirectory (namesIn canonical)))
  | .error _ => pure (.error (.badPath path))

end Target

end SourceAudit
