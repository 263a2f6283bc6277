import SourceAudit.Text.Number

/-!
# Punycode

Labels of a domain as ASCII, by RFC 3492: the ASCII characters come first, and the others follow as
differences of code points in digits of base 36.
-/

namespace SourceAudit.Url.Punycode

/-- The digit of a value below 36. -/
def digit (d : Nat) : Char :=
  Char.ofNat (if d < 26 then 'a'.toNat + d else '0'.toNat + d - 26)

/-- The value of a digit. -/
def digitValue? (c : Char) : Option Nat :=
  if 'a' ≤ c ∧ c ≤ 'z' then some (c.toNat - 'a'.toNat)
  else if 'A' ≤ c ∧ c ≤ 'Z' then some (c.toNat - 'A'.toNat)
  else if '0' ≤ c ∧ c ≤ '9' then some (c.toNat - '0'.toNat + 26)
  else none

/-- The least value of a digit at a position that is not the last of its number. -/
def threshold (position bias : Nat) : Nat :=
  max 1 (min 26 (position - bias))

/-- Divides a difference until it is small, counting 36 for each division. -/
def settleBias (delta count : Nat) : Nat :=
  if 455 < delta then settleBias (delta / 35) (count + 36) else count + 36 * delta / (delta + 38)
termination_by delta

/-- The bias after a difference; `written` characters are there by now. -/
def adapt (delta written : Nat) (isFirst : Bool) : Nat :=
  let d := if isFirst then delta / 700 else delta / 2
  settleBias (d + d / written) 0

/-- The sums and weights of digits fit in 32 bits. -/
def fitsWord (n : Nat) : Bool :=
  n < 4294967296

/-- Adds the number that digits give to a value. -/
def addNumber (bias : Nat) : (position weight value : Nat) → List Char → Option (Nat × List Char)
  | _, _, _, [] => none
  | position, weight, value, c :: r =>
    match digitValue? c with
    | none => none
    | some d =>
      let t := threshold position bias
      let value := value + d * weight
      if !fitsWord value then none
      else if d < t then some (value, r)
      else
        let weight := weight * (36 - t)
        if fitsWord weight then addNumber bias (position + 36) weight value r else none

/-- Puts the characters that the digits stand for into a text. The fuel bounds their number. -/
def decodeFrom : (fuel : Nat) → (code index bias : Nat) → List Char → List Char →
    Option (List Char)
  | _, _, _, _, text, [] => some text
  | 0, _, _, _, _, _ => none
  | fuel + 1, code, index, bias, text, digits =>
    match addNumber bias 36 1 index digits with
    | none => none
    | some (position, rest) =>
      let total := text.length + 1
      let code := code + position / total
      if Text.isScalar code then
        let place := position % total
        decodeFrom fuel code (place + 1) (adapt (position - index) total (index = 0))
          (text.insertIdx place (Char.ofNat code)) rest
      else none

/-- The text that a label without its mark stands for. ASCII characters are in front of the last
hyphen; there is no hyphen without any. -/
def decode? (label : List Char) : Option (List Char) :=
  let back := label.reverse
  let digits := (back.takeWhile (· ≠ '-')).reverse
  match (back.dropWhile (· ≠ '-')).reverse with
  | ['-'] => none
  | front => decodeFrom digits.length 128 0 72 front.dropLast digits

/-- The digits of a number. The fuel bounds their count. -/
def writeNumber (bias : Nat) : (fuel : Nat) → (position value : Nat) → List Char
  | 0, _, _ => []
  | fuel + 1, position, value =>
    let t := threshold position bias
    if value < t then [digit value]
    else
      digit (t + (value - t) % (36 - t)) ::
        writeNumber bias fuel (position + 36) ((value - t) / (36 - t))

/-- What writing carries along. -/
structure Writer where
  digits : List Char
  delta : Nat
  bias : Nat
  written : Nat

/-- Passes over one character of the text while all characters with the code are written. -/
def Writer.pass (code basicCount : Nat) (w : Writer) (c : Char) : Writer :=
  if c.toNat < code then { w with delta := w.delta + 1 }
  else if c.toNat = code then
    { digits := w.digits ++ writeNumber w.bias (w.delta + 1) 36 w.delta
      delta := 0
      bias := adapt w.delta (w.written + 1) (w.written = basicCount)
      written := w.written + 1 }
  else w

/-- Writes the characters with these codes, in increasing order. -/
def writeCodes (text : List Char) (basicCount : Nat) : List Nat → Nat → Writer → Writer
  | [], _, w => w
  | code :: codes, next, w =>
    let w := { w with delta := w.delta + (code - next) * (w.written + 1) }
    let w := text.foldl (Writer.pass code basicCount) w
    writeCodes text basicCount codes (code + 1) { w with delta := w.delta + 1 }

/-- The label, without its mark, that stands for a text. -/
def encode (text : List Char) : List Char :=
  let basic := text.filter (·.toNat < 128)
  let codes := ((text.map Char.toNat).filter (128 ≤ ·)).mergeSort.eraseDups
  let front := if basic.isEmpty then [] else basic ++ ['-']
  front ++ (writeCodes text basic.length codes 128 ⟨[], 0, 72, basic.length⟩).digits

end SourceAudit.Url.Punycode
