/-!
# Styled text

Text in a weight and a colour, written with the escape sequences of terminals or without any.
-/

namespace SourceAudit.Text

/-- A colour of text. -/
inductive Color where
  | red
  | green
  | yellow
  | blue
  | cyan
  | white
deriving DecidableEq, Repr

/-- The code of a colour. -/
def Color.code : Color → String
  | red => "31"
  | green => "32"
  | yellow => "33"
  | blue => "34"
  | cyan => "36"
  | white => "37"

/-- A weight of text. -/
inductive Weight where
  | bold
  | dim
deriving DecidableEq, Repr

/-- The code of a weight. -/
def Weight.code : Weight → String
  | bold => "1"
  | dim => "2"

/-- A style of text: a weight, a colour, or both. -/
structure Style where
  weight : Option Weight := none
  color : Option Color := none
deriving DecidableEq, Repr

namespace Style

/-- Text that stands back. -/
def faint : Style := { weight := some .dim }

/-- Text that stands out. -/
def strong : Style := { weight := some .bold }

/-- Text in a colour. -/
def colored (c : Color) : Style := { color := some c }

/-- Text in a colour that stands out. -/
def strongColored (c : Color) : Style := { weight := some .bold, color := some c }

/-- The sequence that ends a style. -/
def reset : String := "\x1b[0m"

/-- The sequence that starts a style. -/
def opening (s : Style) : String :=
  "\x1b[" ++ ";".intercalate ((s.weight.map Weight.code).toList ++ (s.color.map Color.code).toList) ++
    "m"

/-- The text with the style started again after every end of a style in it. -/
def reopen (s : Style) : List Char → List Char
  | [] => []
  | '\x1b' :: '[' :: '0' :: 'm' :: r => reset.toList ++ s.opening.toList ++ s.reopen r
  | c :: r => c :: s.reopen r

/-- The text with blanks behind it up to a width. -/
def pad (width : Nat) (text : String) : String :=
  text ++ String.ofList (List.replicate (width - text.length) ' ')

/-- There are to be styles, by the values of `CLICOLOR_FORCE`, `NO_COLOR` and `CLICOLOR` in the
environment: if the first asks for them, or else if the second does not forbid them, the third does
not ask for the opposite and the text goes to a terminal. -/
def isWanted (force forbid wish : Option String) (onTerminal : Bool) : Bool :=
  if force.any (· ≠ "0") then true
  else if forbid.isSome then false
  else wish.all (· ≠ "0") && onTerminal

/-- The text in a style, if there are to be any styles. -/
def apply (inColor : Bool) (s : Style) (text : String) : String :=
  if inColor then s.opening ++ String.ofList (s.reopen text.toList) ++ reset else text

/-- The text in a style with blanks behind it up to a width. -/
def applyPadded (inColor : Bool) (s : Style) (width : Nat) (text : String) : String :=
  if inColor then s.opening ++ pad width (String.ofList (s.reopen text.toList)) ++ reset
  else pad width text

end Style

end SourceAudit.Text
