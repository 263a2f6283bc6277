import SourceAudit.Glob.Test

/-!
# Globs as regular expressions

The regular expression of a glob, and how deep its parts are nested. Globs that test by an expression
are refused when it is nested too deep; all others are shallow.
-/

namespace SourceAudit

namespace Glob

/-- The characters that stand for themselves only after a backslash. -/
def metaCharacters : List Char :=
  "\\.+*?()|[]\x7b\x7d^$#&-~".toList

/-- A byte in an expression: a letter of ASCII as it is, others by number. -/
def byteExpression (b : Char) : List Char :=
  if b.toNat < 128 then if metaCharacters.contains b then ['\\', b] else [b]
  else '\\' :: 'x' :: Nat.toDigits 16 b.toNat

/-- A character in an expression. -/
def charExpression (c : Char) : List Char :=
  (bytesOf c).flatMap byteExpression

/-- A range of characters in an expression. -/
def rangeExpression (r : Char × Char) : List Char :=
  if r.1 = r.2 then charExpression r.1
  else charExpression r.1 ++ '-' :: charExpression r.2

mutual

/-- The expression of a token. -/
def Token.expression : Token → List Char
  | .literal c => charExpression c
  | .any => ['.']
  | .zeroOrMore => ['.', '*']
  | .recursivePrefix => "(?:/?|.*/)".toList
  | .recursiveSuffix => "/.*".toList
  | .recursiveMiddle => "(?:/|/.*/)".toList
  | .range negated ranges =>
    '[' :: (if negated then ['^'] else []) ++ ranges.flatMap rangeExpression ++ [']']
  | .alternates [] => []
  | .alternates (branch :: branches) =>
    "(?:".toList ++ sequenceExpression branch ++ furtherExpression branches ++ [')']

/-- The expression of tokens one after the other. -/
def sequenceExpression : List Token → List Char
  | [] => []
  | t :: r => t.expression ++ sequenceExpression r

/-- The expressions of further branches. -/
def furtherExpression : List (List Token) → List Char
  | [] => []
  | branch :: r => '|' :: sequenceExpression branch ++ furtherExpression r

end

/-- The number of items that a token adds to a sequence. -/
def Token.items : Token → Nat
  | .literal c => (bytesOf c).length
  | .recursiveSuffix => 2
  | .alternates [] => 0
  | _ => 1

/-- How deep a sequence is nested, given the number of its items and the depth of the deepest: a
sequence of several items is a level of its own. -/
def sequenceDepth (items inner : Nat) : Nat :=
  if 1 < items then inner + 1 else inner

mutual

/-- How deep the expression of a token is nested. -/
def Token.depth : Token → Nat
  | .literal _ | .any => 0
  | .zeroOrMore | .recursiveSuffix => 1
  | .recursivePrefix | .recursiveMiddle => 4
  | .range _ ranges => sequenceDepth (ranges.flatMap byteRanges).length 1
  | .alternates [] => 0
  | .alternates [branch] => sequenceDepth (itemsOf branch) (deepest branch) + 1
  | .alternates (branch :: branches) =>
    max (sequenceDepth (itemsOf branch) (deepest branch)) (deepestBranch branches) + 2

/-- The number of items of a sequence. -/
def itemsOf : List Token → Nat
  | [] => 0
  | t :: r => t.items + itemsOf r

/-- The depth of the deepest token. -/
def deepest : List Token → Nat
  | [] => 0
  | t :: r => max t.depth (deepest r)

/-- The depth of the deepest branch. -/
def deepestBranch : List (List Token) → Nat
  | [] => 0
  | branch :: r => max (sequenceDepth (itemsOf branch) (deepest branch)) (deepestBranch r)

end

/-- The expression of a glob, for the bytes of a path. -/
def expression (g : Glob) : String :=
  String.ofList ("(?-u)^".toList ++
    (match g.tokens with
      | [.recursivePrefix] => ['.', '*']
      | ts => sequenceExpression ts) ++ ['$'])

/-- How deep the expression of a glob is nested. -/
def depth (g : Glob) : Nat :=
  deepest g.tokens + 1

/-- The deepest nesting of an expression. -/
def maxDepth : Nat := 250

/-- Which of several globs is nested too deep: one with an extension, given by its expression, or one
of the others that test by an expression, given by its place among them. -/
inductive DepthFault where
  | extended (expression : String)
  | plain (index : Nat)
deriving DecidableEq, Repr

/-- The text of a fault. -/
def DepthFault.message : DepthFault → String
  | extended expression => "error parsing glob '" ++ expression ++ "': error parsing pattern 0"
  | plain index => "error parsing pattern " ++ toString index

/-- The first glob that is nested too deep; those with an extension go first. -/
def depthFault? (globs : List Glob) : Option DepthFault :=
  let isDeep (g : Glob) : Bool := maxDepth < g.depth
  match globs.find? fun g => g.test == .extended && isDeep g with
  | some g => some (.extended g.expression)
  | none => ((globs.filter fun g => g.test == .expression).findIdx? isDeep).map .plain

end Glob

end SourceAudit
