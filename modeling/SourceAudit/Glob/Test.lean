import SourceAudit.Glob.Match

/-!
# Testing paths

A glob that is a literal text, or one with wildcards only in front or behind, is a test of the text of
the path. All other globs are tests by a regular expression. Where the file name alone decides, or the
extension has to be right first, a path without a file name does not match.
-/

namespace SourceAudit

namespace Glob

/-- What a glob tests. -/
inductive Test where
  /-- The path has a text at its start, at its end or as a whole. -/
  | text
  /-- The last component has a text as a whole or as its extension. -/
  | fileName
  /-- A regular expression for paths that have a given extension. -/
  | extended
  /-- A regular expression. -/
  | expression
deriving DecidableEq, Repr

/-- The tokens without two stars at the start. -/
def withoutPrefix : List Token → List Token
  | .recursivePrefix :: r => r
  | r => r

/-- The tokens without a star at the start. -/
def withoutStar : List Token → List Token
  | .zeroOrMore :: r => r
  | r => r

/-- The tokens are a text that is not empty. -/
def isText (tokens : List Token) : Bool :=
  !tokens.isEmpty && tokens.all Token.isLiteral

/-- The token is a literal other than these characters. -/
def Token.isLiteralBut (excluded : List Char) (t : Token) : Bool :=
  t.literal?.any fun c => !excluded.contains c

/-- The tokens are a name after any components. -/
def isName : List Token → Bool
  | .recursivePrefix :: r => isText r && r.all (Token.isLiteralBut ['/'])
  | _ => false

/-- The tokens are an extension, a dot and what follows it, after any text. -/
def isExtension (tokens : List Token) : Bool :=
  match withoutPrefix tokens with
  | .zeroOrMore :: .literal '.' :: r => r.all (Token.isLiteralBut ['.', '/'])
  | _ => false

/-- The tokens are a text in front of any text. -/
def isStart (tokens : List Token) : Bool :=
  match tokens.getLast? with
  | some .zeroOrMore => isText tokens.dropLast
  | some .recursiveSuffix => tokens.dropLast.all Token.isLiteral
  | _ => false

/-- The tokens are a text, of more than a slash, after any text or after any components. -/
def isEnd (tokens : List Token) : Bool :=
  match tokens with
  | .recursivePrefix :: .literal _ :: r => r.all Token.isLiteral
  | _ =>
    let rest := withoutStar (withoutPrefix tokens)
    isText rest && rest.map Token.literal? != [some '/']

/-- The tokens end in a dot and literals that are no slash. -/
def endsInExtension (tokens : List Token) : Bool :=
  (tokens.reverse.dropWhile (Token.isLiteralBut ['.', '/'])).head?.bind Token.literal? == some '.'

/-- What tokens test. -/
def Test.ofTokens (tokens : List Token) : Test :=
  if isName tokens then .fileName
  else if isText tokens then .text
  else if isExtension tokens then .fileName
  else if isStart tokens || isEnd tokens then .text
  else if endsInExtension tokens then .extended
  else .expression

/-- What the glob tests. -/
def test (g : Glob) : Test :=
  .ofTokens g.tokens

/-- What follows the last slash. -/
def lastComponent (path : List Char) : List Char :=
  (path.reverse.takeWhile (· != '/')).reverse

/-- A path matches. -/
def accepts (g : Glob) (path : String) : Bool :=
  let path := bytes path
  match g.test with
  | .fileName | .extended => lastComponent path != ['.', '.'] && matchesTokens g.tokens path
  | .text | .expression => matchesTokens g.tokens path

end Glob

end SourceAudit
