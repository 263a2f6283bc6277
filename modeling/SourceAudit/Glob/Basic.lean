/-!
# Globs

Patterns of paths. `?` stands for one byte and `*` for any bytes, the slash included; `**` as a whole
path component stands for any number of components; brackets enclose a class of bytes and braces a
choice. A backslash takes the next character as it is. A path matches as a whole, byte by byte.
-/

namespace SourceAudit

namespace Glob

/-- A part of a glob. -/
inductive Token where
  | literal (c : Char)
  | any
  | zeroOrMore
  /-- Two stars and a slash at the start. -/
  | recursivePrefix
  /-- A slash and two stars at the end. -/
  | recursiveSuffix
  /-- Two stars between slashes. -/
  | recursiveMiddle
  | range (negated : Bool) (ranges : List (Char × Char))
  /-- A choice. Branches that say nothing do not count, and a choice of no branch says nothing. -/
  | alternates (branches : List (List Token))

/-- Why a glob is malformed. -/
inductive Fault where
  | unclosedClass
  | invalidRange (low high : Char)
  | unopenedAlternates
  | unclosedAlternates
  | danglingEscape
deriving DecidableEq, Repr

/-- The text of a fault. -/
def Fault.message : Fault → String
  | unclosedClass => "unclosed character class; missing ']'"
  | invalidRange low high =>
    "invalid range; '" ++ String.singleton low ++ "' > '" ++ String.singleton high ++ "'"
  | unopenedAlternates =>
    "unopened alternate group; missing '\x7b' (maybe escape '\x7d' with '[\x7d]'?)"
  | unclosedAlternates =>
    "unclosed alternate group; missing '\x7d' (maybe escape '\x7b' with '[\x7b]'?)"
  | danglingEscape => "dangling '\\'"

/-- The character of a literal token. -/
def Token.literal? : Token → Option Char
  | .literal c => some c
  | _ => none

/-- The token is a literal. -/
def Token.isLiteral (t : Token) : Bool :=
  t.literal?.isSome

/-- The token is a choice of no branch. -/
def Token.isVoid : Token → Bool
  | .alternates [] => true
  | _ => false

end Glob

/-- A glob that was read. -/
structure Glob where
  tokens : List Glob.Token

namespace Glob

/-- The bytes of a text in UTF-8, as characters of the same numbers. -/
def bytes (s : String) : List Char :=
  s.toUTF8.toList.map fun b => Char.ofNat b.toNat

/-- The bytes of a character in UTF-8, as characters of the same numbers. -/
def bytesOf (c : Char) : List Char :=
  bytes (String.singleton c)

end Glob

end SourceAudit
