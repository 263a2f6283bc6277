import SourceAudit.Line.Import
import SourceAudit.Line.StandardModule
import SourceAudit.Rule.Basic

/-!
# Rules on imports

Imports of packages that the policy forbids, imports of packages that it does not declare, and
imports of what an earlier import already brought in.
-/

namespace SourceAudit.Rule

/-- Names in quotes, separated by commas. -/
def quotedList (names : List String) : String :=
  ", ".intercalate (names.map fun n => "'" ++ n ++ "'")

/-- The top-level packages of the import on a line, unless it is relative. -/
def absoluteImport? (line : Text.Line) : Option (Dialect × List String) :=
  match Import.parse? line with
  | some i => if i.relative then none else some (i.dialect, i.topLevels.map String.ofList)
  | none => none

/-- Import of a package that the policy forbids. -/
def forbiddenImport : Rule where
  key := "imports/forbidden"
  id := "IMP001"
  category := .forbiddenImports
  severity := .high
  reports c := perLine fun line _ =>
    match absoluteImport? line with
    | none => none
    | some (_, modules) =>
      let denied := modules.filter c.policy.denies
      if denied.isEmpty then none else some ("Import of forbidden package " ++ quotedList denied)

/-- The module comes from outside and no one declared it. A denied module is left to the rule on
forbidden imports. -/
def isUnauthorized (c : Context) (module : String) : Bool :=
  !isPythonStandardModule module && !c.firstParty.contains module && !c.policy.declares module &&
    !c.policy.denies module

/-- Python import of a package that the policy does not declare. -/
def unauthorizedImport : Rule where
  key := "imports/unauthorized"
  id := "IMP002"
  category := .forbiddenImports
  severity := .high
  reports c := perLine fun line _ =>
    match absoluteImport? line with
    | some (.python, modules) =>
      let undeclared := modules.filter (isUnauthorized c)
      if undeclared.isEmpty then none
      else some ("Import of " ++ quotedList undeclared ++ " which is not declared in the manifest")
    | _ => none

/-- What an import brings in, as text: a module, or a module and a name after a colon, with a dot in
front if the import is relative. -/
def bindings (i : Import) : List (List Char) :=
  let mark : List Char := if i.relative then ['.'] else []
  if i.names.isEmpty then i.modules.map fun m => mark ++ m
  else i.names.map fun n => mark ++ (i.modules.head?.getD []) ++ ':' :: n

/-- Notes the bindings of line `n` that are new in `seen`; the second part of the outcome is the
first binding that is not new, with the line that brought it in. -/
def noteBindings (n : Nat) (seen : List (List Char × Nat)) :
    List (List Char) → List (List Char × Nat) × Option (List Char × Nat)
  | [] => (seen, none)
  | b :: r =>
    match seen.find? fun e => e.1 == b with
    | some e => ((noteBindings n seen r).1, some e)
    | none => noteBindings n (seen ++ [(b, n)]) r

/-- Reports the repeated imports in a list of lines that starts at line `n`, where `seen` holds the
earlier bindings with their lines. -/
def repeatedImports : Nat → List (List Char × Nat) → List Text.Line → List Report
  | _, _, [] => []
  | n, seen, l :: r =>
    if Line.looksBinary l then repeatedImports (n + 1) seen r
    else
      match Import.parse? l with
      | none => repeatedImports (n + 1) seen r
      | some i =>
        match noteBindings n seen (bindings i) with
        | (seen', none) => repeatedImports (n + 1) seen' r
        | (seen', some (binding, first)) =>
          let shown := String.ofList (binding.map fun c => if c == ':' then '.' else c)
          ⟨n, "Duplicate import of '" ++ shown ++ "' (first imported on line " ++ Nat.repr first ++
            ")"⟩ :: repeatedImports (n + 1) seen' r

/-- Import of what an earlier import brought in. -/
def duplicateImport : Rule where
  key := "imports/duplicate"
  id := "IMP003"
  category := .codeQuality
  severity := .low
  reports _ := repeatedImports 1 []

end SourceAudit.Rule
