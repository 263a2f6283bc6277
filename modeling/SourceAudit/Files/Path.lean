import SourceAudit.Text.Blank

/-!
# Paths

A path is a text of names divided by slashes. Empty names and `.` inside a path say nothing; the
functions here read a path from its parts and leave the spelling of what they keep.
-/

namespace SourceAudit.Path

open Text (dropEndWhile)

/-- A part of a path: the root, a leading `.`, `..`, or a name. -/
inductive Part where
  | root
  | here
  | up
  | name (text : List Char)
deriving DecidableEq, Repr

/-- The texts between the slashes. -/
def segments (path : List Char) : List (List Char) :=
  Text.cut '/' path

/-- The part that a segment stands for; empty segments and `.` stand for none. -/
def Part.ofSegment? (s : List Char) : Option Part :=
  if s = [] ∨ s = ['.'] then none
  else if s = ['.', '.'] then some .up
  else some (.name s)

/-- The path starts at the root. -/
def isAbsolute (path : List Char) : Bool :=
  path.head? == some '/'

/-- The parts of a path. -/
def parts (path : List Char) : List Part :=
  let front :=
    if isAbsolute path then [.root]
    else if (segments path).head? == some ['.'] then [.here]
    else []
  front ++ (segments path).filterMap Part.ofSegment?

/-- Drops trailing slashes and trailing `.` segments, but neither the root nor a `.` in front.
The fuel bounds the segments to drop. -/
def trimEndWithin : Nat → List Char → List Char
  | 0, path => path
  | n + 1, path =>
    let cut := dropEndWhile (· == '/') path
    if cut = [] then path.take 1
    else if ['/', '.'].isSuffixOf cut then trimEndWithin n cut.dropLast
    else cut

/-- The path without trailing slashes and `.` segments. -/
def trimEnd (path : List Char) : List Char :=
  trimEndWithin path.length path

/-- The path that the last part is in, or `none` if there is no part or only the root. -/
def parent? (path : List Char) : Option (List Char) :=
  match (parts path).getLast? with
  | none | some .root => none
  | some _ => some (trimEnd (dropEndWhile (· != '/') (trimEnd path)))

/-- The paths from a path upwards. -/
def ancestors (path : List Char) : List (List Char) :=
  go path.length path
where
  /-- The fuel bounds the number of parts. -/
  go : Nat → List Char → List (List Char)
    | 0, path => [path]
    | n + 1, path =>
      match parent? path with
      | some up => path :: go n up
      | none => [path]

/-- The last part, if it is a name. -/
def fileName? (path : List Char) : Option (List Char) :=
  match (parts path).getLast? with
  | some (.name s) => some s
  | _ => none

/-- A name up to its last dot; a dot in front does not count. -/
def stem (name : List Char) : List Char :=
  let upTo := dropEndWhile (· != '.') name
  if upTo.length ≤ 1 then name else upTo.dropLast

/-- The path with the extension of its last name set. A path whose last part is no name stays. -/
def withExtension (path ext : List Char) : List Char :=
  match fileName? path with
  | none => path
  | some name => dropEndWhile (· != '/') (trimEnd path) ++ stem name ++ '.' :: ext

/-- The path of `rest` seen from `base`. -/
def join (base rest : List Char) : List Char :=
  if isAbsolute rest then rest
  else if base = [] ∨ base.getLast? = some '/' then base ++ rest
  else base ++ '/' :: rest

end SourceAudit.Path
