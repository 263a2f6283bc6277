/-!
# Lines and occurrences

A line ends with a line feed, which may have one carriage return before it. The text after the last
line feed is a line unless it is empty, and keeps its carriage return.

One text may be looked for in another, and dropped wherever it occurs.
-/

/-! ## Lines -/

namespace SourceAudit.Text

/-- A line without its end. -/
abbrev Line := List Char

/-- Drops the carriage return of a line end; the line is given last character first. -/
def dropReturn : List Char → List Char
  | '\r' :: r => r
  | s => s

/-- The lines of a text of which `read`, last character first, is the begun line. -/
def linesFrom (read : List Char) : List Char → List Line
  | [] => if read.isEmpty then [] else [read.reverse]
  | c :: r => if c = '\n' then (dropReturn read).reverse :: linesFrom [] r else linesFrom (c :: read) r

/-- The lines of a text. -/
def lines (s : List Char) : List Line :=
  linesFrom [] s

example : lines "a\r\n\nb\r".toList = [['a'], [], ['b', '\r']] := by decide

end SourceAudit.Text

/-! ## Search in texts -/

namespace SourceAudit.Text

/-- One text occurs in another. -/
def occurs (needle : List Char) : List Char → Bool
  | [] => needle.isEmpty
  | c :: r => needle.isPrefixOf (c :: r) || occurs needle r

/-- Drops the occurrences of a text that is not empty, from left to right; `skip` more
characters belong to an occurrence that has begun. -/
def removeFrom (needle : List Char) : Nat → List Char → List Char
  | _, [] => []
  | skip + 1, _ :: r => removeFrom needle skip r
  | 0, c :: r =>
    if needle.isPrefixOf (c :: r) then removeFrom needle (needle.length - 1) r
    else c :: removeFrom needle 0 r

/-- Drops every occurrence of a text that is not empty, from left to right. -/
def remove (needle text : List Char) : List Char :=
  removeFrom needle 0 text

example : remove "(;;)".toList "for (;;) x(;(;;);)".toList = "for  x(;;)".toList := by decide

end SourceAudit.Text
