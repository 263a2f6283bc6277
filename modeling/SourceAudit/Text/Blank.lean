/-!
# White space and control characters

The Unicode property `White_Space`, the general category `Cc`, and the trimming and word splitting
that follow from them. Text is handled as `List Char`.
-/

namespace SourceAudit.Text

/-- A number lies in one of the closed intervals of a table. -/
def inRanges (ranges : List (Nat × Nat)) (n : Nat) : Bool :=
  ranges.any fun r => r.1 ≤ n && n ≤ r.2

/-- The characters with the Unicode property `White_Space`. -/
def blankRanges : List (Nat × Nat) :=
  [(0x9, 0xD), (0x20, 0x20), (0x85, 0x85), (0xA0, 0xA0), (0x1680, 0x1680), (0x2000, 0x200A),
   (0x2028, 0x2029), (0x202F, 0x202F), (0x205F, 0x205F), (0x3000, 0x3000)]

/-- A white space character. -/
def isBlank (c : Char) : Bool :=
  inRanges blankRanges c.toNat

/-- A control character: general category `Cc`. -/
def isControl (c : Char) : Bool :=
  c.toNat ≤ 0x1F || (0x7F ≤ c.toNat && c.toNat ≤ 0x9F)

/-- Everything that core calls white space is blank. -/
theorem isBlank_of_isWhitespace {c : Char} (h : c.isWhitespace = true) : isBlank c = true := by
  simp only [Char.isWhitespace, Bool.or_eq_true, decide_eq_true_eq] at h
  rcases h with ((h | h) | h) | h <;> subst h <;> decide

/-- Drops characters at the end while they satisfy `p`. -/
def dropEndWhile (p : Char → Bool) (s : List Char) : List Char :=
  (s.reverse.dropWhile p).reverse

/-- Drops characters at both ends while they satisfy `p`. -/
def trimWhile (p : Char → Bool) (s : List Char) : List Char :=
  dropEndWhile p (s.dropWhile p)

/-- Drops white space at the start. -/
def trimStart (s : List Char) : List Char :=
  s.dropWhile isBlank

/-- Drops white space at the end. -/
def trimEnd (s : List Char) : List Char :=
  dropEndWhile isBlank s

/-- Drops white space at both ends. -/
def trim (s : List Char) : List Char :=
  trimWhile isBlank s

/-- Cuts at every character that satisfies `p`; the pieces, empty ones included, are one more than
the cuts. `piece` holds the characters of the current piece, last first. -/
def cutFrom (p : Char → Bool) (piece : List Char) : List Char → List (List Char)
  | [] => [piece.reverse]
  | c :: r => if p c then piece.reverse :: cutFrom p [] r else cutFrom p (c :: piece) r

/-- The pieces between the characters that satisfy `p`. -/
def cutWhere (p : Char → Bool) (s : List Char) : List (List Char) :=
  cutFrom p [] s

/-- The pieces between the occurrences of a separator. -/
def cut (sep : Char) (s : List Char) : List (List Char) :=
  cutWhere (· == sep) s

/-- The runs of characters that are not white space. -/
def words (s : List Char) : List (List Char) :=
  (cutWhere isBlank s).filter fun w => !w.isEmpty

/-- The text with a separator between its pieces. -/
def joinWith (sep : List Char) (pieces : List (List Char)) : List Char :=
  (pieces.intersperse sep).flatten

end SourceAudit.Text
