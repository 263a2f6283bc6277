/-!
# TOML documents

The values of a TOML document and the building of its tables. A table remembers how it came about,
because that decides whether a later line may add to it.
-/

namespace SourceAudit.Toml

/-- How a table came about: written in braces, opened by a header of its own, implied by the header
of a table below it, or implied by a dotted key. -/
inductive Origin where
  | braces
  | header
  | implied
  | dotted
deriving DecidableEq, Repr

/-- A value of a document. The value of a float or of a date does not matter here. -/
inductive Node where
  | string (text : String)
  | integer (n : Int)
  | float
  | boolean (b : Bool)
  | date
  | array (items : List Node)
  | table (origin : Origin) (entries : List (String × Node))
  /-- The tables opened by headers in double brackets, latest first. -/
  | tables (latestFirst : List (List (String × Node)))

/-- The entries of a table, in order. -/
abbrev Entries := List (String × Node)

/-- The value under a key. -/
def Entries.get? (t : Entries) (key : String) : Option Node :=
  (t.find? fun e => e.1 == key).map (·.2)

/-- Sets the value under a key, at the end if the key is new. -/
def Entries.set (t : Entries) (key : String) (v : Node) : Entries :=
  if t.any fun e => e.1 == key then t.map fun e => if e.1 == key then (key, v) else e
  else t ++ [(key, v)]

/-- Drops a key. -/
def Entries.erase (t : Entries) (key : String) : Entries :=
  t.filter fun e => e.1 != key

/-- Changes the table that a header path leads to. Tables on the way that are missing are implied;
of tables opened in double brackets the latest is meant. -/
def Entries.modifyAt (t : Entries) (change : Entries → Option Entries) :
    List String → Option Entries
  | [] => change t
  | key :: path =>
    match t.get? key with
    | none => (modifyAt [] change path).map fun u => t.set key (.table .implied u)
    | some (.table .braces _) => none
    | some (.table origin u) => (modifyAt u change path).map fun u => t.set key (.table origin u)
    | some (.tables (u :: older)) =>
      (modifyAt u change path).map fun u => t.set key (.tables (u :: older))
    | some _ => none

/-- Puts a value under a dotted key. Only tables that dotted keys implied may be added to. -/
def Entries.insertDotted (t : Entries) (v : Node) : List String → Option Entries
  | [] => none
  | [key] => if (t.get? key).isSome then none else some (t.set key v)
  | key :: path =>
    match t.get? key with
    | none => (insertDotted [] v path).map fun u => t.set key (.table .dotted u)
    | some (.table .dotted u) => (insertDotted u v path).map fun u => t.set key (.table .dotted u)
    | some (.table .implied u) =>
      -- a table that a header implied may be passed through but not added to
      match path with
      | [_] => none
      | _ => (insertDotted u v path).map fun u => t.set key (.table .implied u)
    | some (.tables (u :: older)) =>
      match path with
      | [_] => none
      | _ => (insertDotted u v path).map fun u => t.set key (.tables (u :: older))
    | some _ => none

/-- Opens the table of a header. -/
def Entries.openTable (path : List String) (t : Entries) : Option Entries :=
  match path.getLast? with
  | none => none
  | some key =>
    t.modifyAt (fun u =>
      match u.get? key with
      | none => some (u.set key (.table .header []))
      | some (.table .implied w) => some (u.set key (.table .header w))
      | some _ => none) path.dropLast

/-- Opens one more table of a header in double brackets. -/
def Entries.openNextTable (path : List String) (t : Entries) : Option Entries :=
  match path.getLast? with
  | none => none
  | some key =>
    t.modifyAt (fun u =>
      match u.get? key with
      | none => some (u.set key (.tables [[]]))
      | some (.tables ws) => some (u.set key (.tables ([] :: ws)))
      | some _ => none) path.dropLast

end SourceAudit.Toml
