import SourceAudit.Text.Composition
import SourceAudit.Text.Direction
import SourceAudit.Text.Joining
import SourceAudit.Url.Domain.Mapping
import SourceAudit.Url.Punycode

/-!
# Domains

The ASCII form of a domain. Its characters are mapped and composed first; then every label has to be
well-formed, and labels with characters outside ASCII are written in Punycode behind the mark `xn--`.
A label does not start with a mark, an invisible joiner stands only where it shows, and the characters
can be read in one direction.
-/

/-! ## Labels of domains -/

namespace SourceAudit.Url.Domain

open Text

/-- The label has no character outside ASCII. -/
def isAscii (label : List Char) : Bool :=
  label.all (·.toNat < 0x80)

/-- The label does not start with a combining mark. -/
def startsWell (label : List Char) : Bool :=
  !label.head?.any isMark

/-- The mark that joins letters. -/
def joiner : Char := Char.ofNat 0x200D

/-- The mark that keeps letters from joining. -/
def nonJoiner : Char := Char.ofNat 0x200C

/-- A joiner may stand behind a sign without vowel, and a mark against joining also between letters
that would join; `before` is the text in front of it, last first. -/
def mayJoin (before : List Char) (c : Char) (after : List Char) : Bool :=
  before.head?.any isVirama ||
    (c == nonJoiner && (before.dropWhile isTransparent).head?.any joinsNext &&
      (after.dropWhile isTransparent).head?.any joinsPrevious)

/-- Every joiner of a label, of which `before` was read, last first, stands where it may. -/
def joinsWell (before : List Char) : List Char → Bool
  | [] => true
  | c :: r => ((c != joiner && c != nonJoiner) || mayJoin before c r) && joinsWell (c :: before) r

/-- The characters of a label stand in an order that can be read in one direction. -/
def isOrdered (label : List Char) : Bool :=
  let ds := label.map direction
  let last? := (ds.filter (· ≠ .mark)).getLast?
  match ds.head? with
  | none => true
  | some .right =>
    ds.all (· ≠ .left) && last? ∈ [some .right, some .digit, some .arabicDigit] &&
      !(ds.contains .digit && ds.contains .arabicDigit)
  | some .left =>
    ds.all (fun d => d ≠ .right && d ≠ .arabicDigit) && last? ∈ [some .left, some .digit]
  | some _ => false

/-- The label has characters of right-to-left text. -/
def hasRight (label : List Char) : Bool :=
  label.any fun c => direction c ∈ [.right, .arabicDigit]

end SourceAudit.Url.Domain

/-! ## Domains -/

namespace SourceAudit.Url.Domain

open Text

/-- A text with its characters mapped and composed, or `none` if one of them cannot be in a domain. -/
def normalize (text : List Char) : Option (List Char) :=
  (text.mapM mapChar).map fun cs => composed cs.flatten

/-- An ASCII character that no domain holds. -/
def isForbidden (c : Char) : Bool :=
  c.toNat ≤ 0x20 || c.toNat = 0x7F ||
    c ∈ ['%', '#', '/', ':', '<', '>', '?', '@', '[', '\\', ']', '^', '|']

/-- The mark of a label in Punycode. -/
def mark : List Char := "xn--".toList

/-- The longest Punycode behind the mark that is read. -/
def maxPunycodeLength : Nat := 2000

/-- The longest label that is written in Punycode. -/
def maxLabelLength : Nat := 1000

/-- The text that Punycode behind the mark stands for, or `none` if it is ill-formed: it stands for
characters outside ASCII, and its text is in normal form. -/
def decodeLabel (code : List Char) : Option (List Char) :=
  if !isAscii code || code.isEmpty || code.getLast? = some '-' || maxPunycodeLength < code.length then
    none
  else (Punycode.decode? code).filter fun text => normalize text = some text

/-- The text that a normal label stands for, or `none` if it is ill-formed. -/
def labelText (label : List Char) : Option (List Char) :=
  if mark.isPrefixOf label then decodeLabel (label.drop mark.length) else some label

/-- The ASCII form of the text of a label, or `none` if it is too long. -/
def labelAscii (text : List Char) : Option (List Char) :=
  if isAscii text then some text
  else if maxLabelLength < text.length then none
  else some (mark ++ Punycode.encode text)

/-- The ASCII form of a domain, or `none` if it is none. -/
def toAscii? (domain : List Char) : Option (List Char) := do
  let texts ← (cut '.' (← normalize domain)).mapM labelText
  if texts.any (·.any isForbidden) then none
  else if !texts.all startsWell || !texts.all (joinsWell []) then none
  else if texts.any hasRight && !texts.all isOrdered then none
  else (texts.mapM labelAscii).map (joinWith ['.'])

end SourceAudit.Url.Domain
