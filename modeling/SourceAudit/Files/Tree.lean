import SourceAudit.Files.Basic

/-!
# File trees

A tree of files, directories and symbolic links below a root, and the operations on files over it.
Links are followed as a POSIX system follows them: relative to the directory that they are in, and
at most forty for one path.
-/

namespace SourceAudit

/-- The names that lead from the root to a place. -/
abbrev Location := List String

/-- What a tree holds at a place. -/
inductive TreeEntry where
  | file (bytes : Bytes)
  | directory
  | link (target : String)
deriving DecidableEq, Repr

/-- A tree of files and the directory that relative paths start from. The root is always there. -/
structure FileTree where
  entries : List (Location × TreeEntry) := []
  start : Location := []

/-- One step along a path. -/
inductive PathStep where
  | stay
  | up
  | enter (name : String)
  /-- The slash at the end of a path, which asks for a directory. -/
  | slash
deriving DecidableEq, Repr

/-- The step for a segment of a path; an empty segment is none. -/
def PathStep.ofSegment? (s : List Char) : Option PathStep :=
  if s = [] then none
  else if s = ['.'] then some .stay
  else if s = ['.', '.'] then some .up
  else some (.enter (String.ofList s))

/-- The steps of a path. -/
def PathStep.ofPath (path : List Char) : List PathStep :=
  (Path.segments path).filterMap ofSegment? ++
    if path.getLast? = some '/' then [.slash] else []

/-- What the last name of a path is asked for. -/
inductive Purpose where
  /-- The entry itself, a link included. -/
  | entry
  /-- What it leads to. -/
  | target
  /-- The file that it leads to, which is made if it is missing. -/
  | file
deriving DecidableEq, Repr

/-- Where a path leads: to an entry, or to a name that is free in a directory. -/
inductive Place where
  | found (loc : Location)
  | free (loc : Location)
deriving DecidableEq, Repr

/-- The longest name, in bytes. -/
def maxNameSize : Nat := 255

/-- The longest path, in bytes. -/
def maxPathSize : Nat := 4095

/-- The links that one path may go through. -/
def maxLinks : Nat := 40

namespace FileTree

/-- What is at a place. -/
def entry? (t : FileTree) (loc : Location) : Option TreeEntry :=
  if loc = [] then some .directory else (t.entries.find? fun e => e.1 == loc).map (·.2)

/-- The tree with an entry at a place. -/
def put (t : FileTree) (loc : Location) (e : TreeEntry) : FileTree :=
  if t.entries.any fun x => x.1 == loc then
    { t with entries := t.entries.map fun x => if x.1 == loc then (loc, e) else x }
  else { t with entries := t.entries ++ [(loc, e)] }

/-- The tree with nothing at a place. -/
def erase (t : FileTree) (loc : Location) : FileTree :=
  { t with entries := t.entries.filter fun x => x.1 != loc }

/-- Where steps lead. -/
def follow (t : FileTree) (purpose : Purpose) (links : Nat) (loc : Location) :
    List PathStep → Except FileFault Place
  | [] => .ok (.found loc)
  | s :: rest =>
    if t.entry? loc ≠ some .directory then .error .notDirectory
    else
      match s with
      | .stay | .slash => follow t purpose links loc rest
      | .up => follow t purpose links loc.dropLast rest
      | .enter name =>
        let next := loc ++ [name]
        if purpose = .file ∧ rest = [.slash] then .error .isDirectory
        else if maxNameSize < name.utf8ByteSize then .error .nameTooLong
        else
          match t.entry? next with
          | none => if rest = [] then .ok (.free next) else .error .notFound
          | some (.link target) =>
            if rest = [] ∧ purpose = .entry then .ok (.found next)
            else
              match links with
              | 0 => .error .tooManyLinks
              | links + 1 =>
                let base := if Path.isAbsolute target.toList then [] else loc
                follow t purpose links base (PathStep.ofPath target.toList ++ rest)
          | some _ => follow t purpose links next rest
termination_by steps => (links, steps.length)

/-- Where a path leads. -/
def locate (t : FileTree) (purpose : Purpose) (path : List Char) : Except FileFault Place :=
  if '\x00' ∈ path then .error .nulInPath
  else if path = [] then .error .notFound
  else if maxPathSize < Text.Utf8.size path then .error .nameTooLong
  else t.follow purpose maxLinks (if Path.isAbsolute path then [] else t.start)
    (PathStep.ofPath path)

/-- What a path leads to. -/
def kind? (t : FileTree) (path : String) : Option EntryKind :=
  match t.locate .target path.toList with
  | .ok (.found loc) =>
    match t.entry? loc with
    | some (.file _) => some .file
    | some .directory => some .directory
    | _ => none
  | _ => none

/-- The bytes of the file that a path leads to. -/
def read (t : FileTree) (path : String) : Except FileFault Bytes :=
  match t.locate .target path.toList with
  | .error e => .error e
  | .ok (.free _) => .error .notFound
  | .ok (.found loc) =>
    match t.entry? loc with
    | some (.file bytes) => .ok bytes
    | some .directory => .error .isDirectory
    | _ => .error .notFound

/-- A path that names a directory by a slash at its end. -/
def endsInSlash (path : List Char) : Bool :=
  path.getLast? == some '/'

/-- The path without slashes at its end; the root stays. -/
def withoutEndSlash (path : List Char) : List Char :=
  match Text.dropEndWhile (· == '/') path with
  | [] => path.take 1
  | cut => cut

/-- Where an entry that a path names is or may be made. -/
def locateEntry (t : FileTree) (path : List Char) : Except FileFault Place :=
  if maxPathSize < Text.Utf8.size path then .error .nameTooLong
  else t.locate .entry (withoutEndSlash path)

/-- The tree after writing a file. -/
def write (t : FileTree) (path : String) (bytes : Bytes) : Except FileFault FileTree :=
  match t.locate .file path.toList with
  | .error e => .error e
  | .ok (.free loc) => .ok (t.put loc (.file bytes))
  | .ok (.found loc) =>
    match t.entry? loc with
    | some (.file _) => .ok (t.put loc (.file bytes))
    | _ => .error .isDirectory

/-- The tree with one more directory. -/
def makeDirectory (t : FileTree) (path : String) : Except FileFault FileTree :=
  match t.locateEntry path.toList with
  | .error e => .error e
  | .ok (.found _) => .error .exists
  | .ok (.free loc) => .ok (t.put loc .directory)

/-- The tree with one more symbolic link. -/
def makeLink (t : FileTree) (path target : String) : Except FileFault FileTree :=
  match t.locateEntry path.toList with
  | .error e => .error e
  | .ok (.found _) => .error .exists
  | .ok (.free loc) => .ok (t.put loc (.link target))

/-- The last segment of a path is a name. -/
def endsInName (path : List Char) : Bool :=
  match (PathStep.ofPath (withoutEndSlash path)).getLast? with
  | some (.enter _) => true
  | _ => false

/-- The tree with a file or a link moved. A link moves as it is, and what it leads to stays. -/
def rename (t : FileTree) (path target : String) : Except FileFault FileTree :=
  match t.locateEntry path.toList with
  | .error e => .error e
  | .ok (.free _) => .error .notFound
  | .ok (.found loc) =>
    match t.locateEntry target.toList with
    | .error e => .error e
    | .ok place =>
      if !endsInName target.toList then .error .busy
      else
        match t.entry? loc with
        | none | some .directory => .error .isDirectory
        | some moved =>
          if endsInSlash target.toList then .error .notDirectory
          else
            match place with
            | .free other => .ok ((t.erase loc).put other moved)
            | .found other =>
              if t.entry? other = some .directory then .error .isDirectory
              else if other = loc then .ok t
              else .ok ((t.erase loc).put other moved)

/-- The names and entries in a directory, in name order. -/
def children (t : FileTree) (loc : Location) : List (String × TreeEntry) :=
  (t.entries.filterMap fun e =>
    if e.1.dropLast = loc then e.1.getLast?.map (·, e.2) else none).mergeSort
    fun a b => a.1 ≤ b.1

/-- The files and directories in a directory; a file holds none. -/
def list (t : FileTree) (path : String) : Except FileFault (List (String × EntryKind)) :=
  match t.locate .target path.toList with
  | .error e => .error e
  | .ok (.free _) => .error .notFound
  | .ok (.found loc) =>
    match t.entry? loc with
    | some .directory =>
      .ok ((t.children loc).filterMap fun e =>
        match e.2 with
        | .file _ => some (e.1, .file)
        | .directory => some (e.1, .directory)
        | .link _ => none)
    | _ => .ok []

/-- The path of a place. -/
def pathOf (loc : Location) : String :=
  "/" ++ "/".intercalate loc

/-- The path without links, `.` and `..`. -/
def canonical (t : FileTree) (path : String) : Except FileFault String :=
  match t.locate .target path.toList with
  | .error e => .error e
  | .ok (.free _) => .error .notFound
  | .ok (.found loc) => .ok (pathOf loc)

/-- An operation that changes the tree unless it fails. -/
def changing (op : FileTree → Except FileFault FileTree) :
    StateM FileTree (Except FileFault Unit) := fun t =>
  match op t with
  | .ok u => (.ok (), u)
  | .error e => (.error e, t)

/-- The operations on the files of a tree. -/
def files : Files (StateM FileTree) where
  kind? path := fun t => (t.kind? path, t)
  read path := fun t => (t.read path, t)
  write path bytes := changing (write · path bytes)
  makeDirectory path := changing (makeDirectory · path)
  rename path target := changing (rename · path target)
  list path := fun t => (t.list path, t)
  canonical path := fun t => (t.canonical path, t)

end FileTree

end SourceAudit
