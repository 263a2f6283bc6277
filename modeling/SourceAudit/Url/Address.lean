import SourceAudit.Decimal.Bound
import SourceAudit.Text.Blank
import SourceAudit.Text.Number

/-!
# Network addresses

The numeric addresses that can stand in place of a domain.
-/

namespace SourceAudit.Url

open Decimal (twoTo)
open Text

/-- Reads one number of an address: hexadecimal after `0x`, octal after `0`, or decimal. -/
def addressNumber? (part : List Char) : Option Nat :=
  let inBase (base : Nat) (valid : Char → Bool) (digits : List Char) : Option Nat :=
    if digits.all valid then some (natOfDigits base digits) else none
  match part with
  | [] => none
  | '0' :: 'x' :: r | '0' :: 'X' :: r => inBase 16 isHexDigit r
  | '0' :: c :: r => inBase 8 (fun d => '0' ≤ d && d ≤ '7') (c :: r)
  | digits => inBase 10 Char.isDigit digits

/-- The last part that is not the empty one behind a final dot. -/
def lastPart (parts : List (List Char)) : List Char :=
  match parts.reverse with
  | [] :: last :: _ => last
  | last :: _ => last
  | [] => []

/-- A domain that can only be meant as an address. -/
def endsInNumber (domain : List Char) : Bool :=
  let last := lastPart (cut '.' domain)
  (!last.isEmpty && last.all Char.isDigit) || (addressNumber? last).isSome

/-- Reads an address of up to four numbers. All but the last are one byte each, and the last fills
the bytes that remain. -/
def address4? (domain : List Char) : Option Nat :=
  let parts := cut '.' domain
  let parts := if parts.getLast? = some [] then parts.dropLast else parts
  if 4 < parts.length then none
  else
    match parts.mapM addressNumber? with
    | none => none
    | some numbers =>
      match numbers.getLast? with
      | none => none
      | some last =>
        let front := numbers.dropLast
        if front.any (255 < ·) || twoTo (8 * (4 - front.length)) ≤ last then none
        else
          some (front.foldl (fun n b => n * 256 + b) 0 * twoTo (8 * (4 - front.length)) + last)

/-- The usual text of an address of four bytes. -/
def address4Text (n : Nat) : List Char :=
  joinWith ['.'] ([n / twoTo 24 % 256, n / twoTo 16 % 256, n / twoTo 8 % 256, n % 256].map decimal)

/-- A decimal byte without leading zeros. -/
def plainByte? (part : List Char) : Option Nat :=
  if part.isEmpty || !part.all Char.isDigit || (1 < part.length && part.head? = some '0') then none
  else if natOfDigits 10 part < 256 then some (natOfDigits 10 part) else none

/-- Reads the groups on one side of a double colon; an address of four bytes may end them. -/
def groups? (side : List Char) (mayEndInBytes : Bool) : Option (List Nat) :=
  if side.isEmpty then some []
  else
    let pieces := cut ':' side
    let group? (g : List Char) : Option Nat :=
      if !g.isEmpty && g.length ≤ 4 && g.all isHexDigit then some (natOfDigits 16 g) else none
    match pieces.getLast? with
    | none => none
    | some last =>
      if mayEndInBytes && last.contains '.' then
        match pieces.dropLast.mapM group?, (cut '.' last).mapM plainByte? with
        | some front, some [a, b, c, d] => some (front ++ [a * 256 + b, c * 256 + d])
        | _, _ => none
      else pieces.mapM group?

/-- Cuts a text at its first double colon. -/
def cutAtGap : List Char → List Char × Option (List Char)
  | ':' :: ':' :: r => ([], some r)
  | c :: r => (c :: (cutAtGap r).1, (cutAtGap r).2)
  | [] => ([], none)

/-- Reads an address of eight groups, of which a double colon leaves out one or more zeros. -/
def address6? (text : List Char) : Option (List Nat) :=
  match cutAtGap text with
  | (all, none) =>
    match groups? all true with
    | some gs => if gs.length = 8 then some gs else none
    | none => none
  | (front, some back) =>
    match groups? front false, groups? back true with
    | some f, some b =>
      if f.length + b.length < 8 then
        some (f ++ List.replicate (8 - f.length - b.length) 0 ++ b)
      else none
    | _, _ => none

/-- Where the longest run of zeros of at least two groups starts, and how long it is. -/
def longestGap (groups : List Nat) : Nat × Nat :=
  (List.range groups.length).foldl (fun best i =>
    let run := ((groups.drop i).takeWhile (· = 0)).length
    if best.2 < run && 1 < run then (i, run) else best) (0, 0)

/-- The usual text of an address of eight groups. -/
def address6Text (groups : List Nat) : List Char :=
  let text (gs : List Nat) := joinWith [':'] (gs.map (hexPadded false 1))
  match longestGap groups with
  | (_, 0) => text groups
  | (start, length) => text (groups.take start) ++ "::".toList ++ text (groups.drop (start + length))

end SourceAudit.Url
