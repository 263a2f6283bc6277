/-!
# Readers

A reader takes characters off the front of a text or refuses it. A refused reader leaves the text as
it was, so a choice can try the next reader.
-/

namespace SourceAudit

/-- A reader of a value from the front of a text. -/
abbrev Reader (α : Type) := StateT (List Char) Option α

namespace Reader

variable {α : Type}

/-- Refuses. -/
def refuse : Reader α := fun _ => none

/-- The next character that satisfies `p`. -/
def satisfy (p : Char → Bool) : Reader Char
  | [] => none
  | c :: r => if p c then some (c, r) else none

/-- Exactly this character. -/
def char (c : Char) : Reader Unit
  | [] => none
  | d :: r => if d = c then some ((), r) else none

/-- Exactly this text. -/
def text (t : String) : Reader Unit := fun s =>
  if t.toList.isPrefixOf s then some ((), s.drop t.length) else none

/-- The characters at the front that satisfy `p`. -/
def takeWhile (p : Char → Bool) : Reader (List Char) := fun s =>
  some (s.takeWhile p, s.dropWhile p)

/-- One or more characters that satisfy `p`. -/
def takeWhile1 (p : Char → Bool) : Reader (List Char) := do
  let cs ← takeWhile p
  if cs.isEmpty then refuse else pure cs

/-- Exactly `n` characters that satisfy `p`. -/
def exactly (n : Nat) (p : Char → Bool) : Reader (List Char) := fun s =>
  let cs := s.take n
  if cs.length = n && cs.all p then some (cs, s.drop n) else none

/-- The next character, left in place. -/
def peek : Reader (Option Char) := fun s => some (s.head?, s)

/-- The end of the text. -/
def finish : Reader Unit := fun s => if s.isEmpty then some ((), []) else none

/-- The value, or `none` if it is refused. -/
def maybe (p : Reader α) : Reader (Option α) := fun s =>
  match p s with
  | some (a, r) => some (some a, r)
  | none => some (none, s)

/-- At most `n` values, as long as the reader takes characters. -/
def manyWithin (p : Reader α) : Nat → Reader (List α)
  | 0 => fun s => some ([], s)
  | n + 1 => fun s =>
    match p s with
    | none => some ([], s)
    | some (a, r) =>
      if r.length < s.length then
        match manyWithin p n r with
        | some (as, t) => some (a :: as, t)
        | none => none
      else some ([], s)

/-- The values at the front of the text. -/
def many (p : Reader α) : Reader (List α) := fun s =>
  manyWithin p s.length s

/-- One or more values with separators between them. -/
def sepBy1 (p : Reader α) (sep : Reader Unit) : Reader (List α) := do
  let a ← p
  let as ← many (do sep; p)
  pure (a :: as)

/-- The value that the whole text reads as. -/
def all (p : Reader α) (s : List Char) : Option α :=
  match p s with
  | some (a, []) => some a
  | _ => none

/-- The text that a reader takes, in place of its value. -/
def taken (p : Reader α) : Reader (List Char) := fun s =>
  match p s with
  | some (_, r) => some (s.take (s.length - r.length), r)
  | none => none

end Reader

end SourceAudit
