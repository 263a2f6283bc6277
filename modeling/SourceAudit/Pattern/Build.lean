import SourceAudit.Pattern.Basic
import SourceAudit.Text.Case

/-!
# Building patterns

Sequences are written `p ++ q` and choices `p <|> q`. The other builders are for literal text,
character classes and counted repetition.
-/

namespace SourceAudit

namespace Pattern

open Text

instance : Append Pattern := ⟨seq⟩

instance : OrElse Pattern := ⟨fun p q => alt p (q ())⟩

/-- One pattern after the other. -/
def chain : List Pattern → Pattern
  | [] => nothing
  | [p] => p
  | p :: r => seq p (chain r)

/-- The first pattern that matches; a choice of none never matches. -/
def choice : List Pattern → Pattern
  | [] => one fun _ => false
  | [p] => p
  | p :: r => alt p (choice r)

/-- Exactly this text. -/
def lit (text : String) : Pattern :=
  chain (text.toList.map fun c => one (· == c))

/-- The characters that count as the same letter when case is ignored: the two cases of an ASCII
letter, the long s with `s`, and the Kelvin sign with `k`. -/
def sameLetter (c d : Char) : Bool :=
  asciiLower c == asciiLower d || (asciiLower c == 's' && d == 'ſ') ||
    (asciiLower c == 'k' && d.toNat == 0x212A)

/-- This text in any letter case. -/
def anyCase (text : String) : Pattern :=
  chain (text.toList.map fun c => one (sameLetter c))

/-- One of several texts, earlier ones preferred. -/
def words (texts : List String) : Pattern :=
  choice (texts.map lit)

/-- One of several texts in any letter case, earlier ones preferred. -/
def anyCaseWords (texts : List String) : Pattern :=
  choice (texts.map anyCase)

/-- A character of the list. -/
def among (chars : String) (c : Char) : Bool :=
  chars.toList.contains c

/-- A character that is not in the list. -/
def notAmong (chars : String) (c : Char) : Bool :=
  !among chars c

/-- One or more accepted characters. -/
def some1 (accepts : Char → Bool) : Pattern :=
  one accepts ++ many accepts

/-- The pattern or nothing. -/
def optional (p : Pattern) : Pattern :=
  alt p nothing

/-- Exactly `n` matches. -/
def times (n : Nat) (p : Pattern) : Pattern :=
  chain (List.replicate n p)

/-- At most `n` matches, more preferred. -/
def atMost : Nat → Pattern → Pattern
  | 0, _ => nothing
  | n + 1, p => optional (seq p (atMost n p))

/-- At least `low` and at most `high` accepted characters. -/
def between (low high : Nat) (accepts : Char → Bool) : Pattern :=
  times low (one accepts) ++ atMost (high - low) (one accepts)

/-- At least `n` accepted characters. -/
def atLeast (n : Nat) (accepts : Char → Bool) : Pattern :=
  times n (one accepts) ++ many accepts

/-- White space, or none. -/
def gap : Pattern := many isBlank

/-- White space. -/
def space : Pattern := some1 isBlank

/-- A word. -/
def word : Pattern := some1 isWord

/-- Any text up to the end of the line. -/
def anything : Pattern := many (· != '\n')

/-- The start of the text, then white space. -/
def indented : Pattern := start ++ gap

/-- White space up to the end of the text. -/
def blankEnd : Pattern := gap ++ finish

/-- The start of the text or a character outside words and member accesses. -/
def freeStart : Pattern :=
  start <|> one fun c => c != '.' && !isWord c

end Pattern

end SourceAudit
