import SourceAudit.Pattern.Build

/-!
# Import statements

Recognizes a Python or JavaScript import on a single line: the modules and names it mentions and
whether it is relative.
-/

namespace SourceAudit

/-- The language an import is written in. -/
inductive Dialect where
  | python
  | javaScript
deriving DecidableEq, Repr

/-- An import statement: the modules as written, the names taken from them, and whether the modules
are given relative to the importing file. -/
structure Import where
  dialect : Dialect
  modules : List (List Char)
  names : List (List Char)
  relative : Bool
deriving DecidableEq, Repr

namespace Import

open Pattern Text

/-- A character of a dotted module path. -/
def isPathChar (c : Char) : Bool :=
  isWord c || c == '.'

/-- A character that may stand between `import` and `from` in JavaScript. -/
def isBindingChar (c : Char) : Bool :=
  isWord c || isBlank c || among "*\x7b\x7d,$" c

/-- A quote of a module name. -/
def isModuleQuote : Char → Bool :=
  among "'\""

/-- A quoted module name; the name is group 1. -/
def quotedModule : Pattern :=
  one isModuleQuote ++ group 1 (some1 fun c => !isModuleQuote c) ++ one isModuleQuote

/-- JavaScript's `import … from '…'` and `import '…'`. White space counts among the binding
characters, so one white space character on either side of them is enough to ask for. -/
def javaScriptImport : Pattern :=
  indented ++ lit "import" ++ one isBlank ++
    choice [some1 isBindingChar ++ one isBlank ++ lit "from" ++ space, gap] ++ quotedModule

/-- JavaScript's `require('…')`. -/
def javaScriptRequire : Pattern :=
  wordEdge ++ lit "require(" ++ gap ++ quotedModule ++ gap ++ lit ")"

/-- An optional `as` clause. -/
def asClause : Pattern :=
  optional (space ++ lit "as" ++ space ++ word)

/-- Python's `import a, b as c`; the clauses are group 1. -/
def pythonImport : Pattern :=
  indented ++ lit "import" ++ space ++
    group 1 (some1 isPathChar ++ asClause ++
      repeated (gap ++ lit "," ++ gap ++ some1 isPathChar ++ asClause)) ++
    gap ++ optional (lit "#" ++ anything) ++ finish

/-- Python's `from a import b, c`; the leading dots are group 1, the module is group 2 and the
clauses are group 3. -/
def pythonFrom : Pattern :=
  indented ++ lit "from" ++ space ++ group 1 (many (· == '.')) ++ group 2 (many isPathChar) ++
    space ++ lit "import" ++ space ++ group 3 (some1 (· != '\n')) ++ finish

/-- A JavaScript import of one module. -/
def ofModule (name : List Char) : Import :=
  { dialect := .javaScript
    modules := [name]
    names := []
    relative := name.head? == some '.' || name.head? == some '/' }

/-- The name in one clause after `import`: its first word, without enclosing parentheses. -/
def clauseName (clause : List Char) : List Char :=
  ((Text.words (trimWhile (fun c => c == '(' || c == ')' || isBlank c) clause)).head?).getD []

/-- The names in the text after `import`, up to a comment. -/
def clauseNames (clauses : List Char) : List (List Char) :=
  ((cut ',' (clauses.takeWhile (· != '#'))).map clauseName).filter fun n => !n.isEmpty

/-- Recognizes an import statement on a line. -/
def parse? (line : List Char) : Option Import :=
  match javaScriptImport.find? line with
  | some f => some (ofModule (f.group 1))
  | none =>
    match pythonFrom.find? line with
    | some f =>
      some
        { dialect := .python
          modules := if (f.group 2).isEmpty then [] else [f.group 2]
          names := clauseNames (f.group 3)
          relative := !(f.group 1).isEmpty }
    | none =>
      match pythonImport.find? line with
      | some f =>
        some
          { dialect := .python
            modules := (cut ',' (f.group 1)).filterMap fun clause => (Text.words clause).head?
            names := []
            relative := false }
      | none => (javaScriptRequire.find? line).map fun f => ofModule (f.group 1)

/-- The top-level package of a module: the first segment of its path, or scope and name of a scoped
JavaScript package. -/
def topLevel (dialect : Dialect) (module : List Char) : List Char :=
  match dialect with
  | .python => module.takeWhile (· != '.')
  | .javaScript =>
    match cut '/' module with
    | scope :: name :: _ => if scope.head? == some '@' then scope ++ '/' :: name else scope
    | [first] => first
    | [] => module

/-- Puts an item at the end of a list that does not have it. -/
def addNew (xs : List (List Char)) (x : List Char) : List (List Char) :=
  if x.isEmpty || xs.contains x then xs else xs ++ [x]

/-- The top-level packages of an import, each once, in order. -/
def topLevels (i : Import) : List (List Char) :=
  (i.modules.map (topLevel i.dialect)).foldl addNew []

end Import

end SourceAudit
