import SourceAudit.Text.Number

/-!
# UTF-8

Bytes and the characters that they encode. An ill-formed piece of bytes, as long as it could still
have become a character, counts as one replacement character.
-/

namespace SourceAudit.Text.Utf8

/-- The bytes that encode a text. -/
def encode (cs : List Char) : List UInt8 :=
  cs.flatMap String.utf8EncodeChar

/-- The bits of its own that a first byte holds, and the bounds of each byte to follow it. -/
def lead? (b : UInt8) : Option (Nat × List (UInt8 × UInt8)) :=
  let tail : UInt8 × UInt8 := (0x80, 0xBF)
  let n := b.toNat
  if n < 0x80 then some (n, [])
  else if n < 0xC2 then none
  else if n < 0xE0 then some (n - 0xC0, [tail])
  else if n = 0xE0 then some (0, [(0xA0, 0xBF), tail])
  else if n = 0xED then some (0xD, [(0x80, 0x9F), tail])
  else if n < 0xF0 then some (n - 0xE0, [tail, tail])
  else if n = 0xF0 then some (0, [(0x90, 0xBF), tail, tail])
  else if n < 0xF4 then some (n - 0xF0, [tail, tail, tail])
  else if n = 0xF4 then some (4, [(0x80, 0x8F), tail, tail])
  else none

/-- Adds the bytes within the bounds to a value. The value is lost at the first byte that is out of
its bounds, which stays. -/
def follow (value : Nat) : List (UInt8 × UInt8) → List UInt8 → Option Nat × List UInt8
  | [], bs => (some value, bs)
  | _ :: _, [] => (none, [])
  | (low, high) :: bounds, b :: bs =>
    if low ≤ b && b ≤ high then follow (value * 64 + (b.toNat - 0x80)) bounds bs
    else (none, b :: bs)

/-- What follows is never longer. -/
theorem length_follow_le (value : Nat) (bounds : List (UInt8 × UInt8)) (bs : List UInt8) :
    (follow value bounds bs).2.length ≤ bs.length := by
  induction bounds generalizing value bs with
  | nil => simp [follow]
  | cons p bounds ih =>
    cases bs with
    | nil => simp [follow]
    | cons b bs =>
      simp only [follow]
      split
      · exact Nat.le_succ_of_le (ih _ _)
      · simp

/-- The characters that bytes encode, `none` for an ill-formed piece. -/
def decode : List UInt8 → List (Option Char)
  | [] => []
  | b :: bs =>
    match lead? b with
    | none => none :: decode bs
    | some (value, bounds) =>
      (follow value bounds bs).1.map Char.ofNat :: decode (follow value bounds bs).2
termination_by bs => bs.length
decreasing_by
  · simp
  · exact Nat.lt_succ_of_le (length_follow_le _ _ _)

/-- The text that bytes encode, if all of them are well-formed. -/
def decode? (bs : List UInt8) : Option (List Char) :=
  (decode bs).mapM id

/-- The text that bytes encode, with replacement characters for ill-formed pieces. -/
def decodeLossy (bs : List UInt8) : List Char :=
  (decode bs).map (·.getD '\ufffd')

/-- The number of bytes that encode a text. -/
def size (cs : List Char) : Nat :=
  cs.foldr (fun c n => c.utf8Size + n) 0

end SourceAudit.Text.Utf8
