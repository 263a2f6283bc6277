import SourceAudit.Decimal.Bound

/-!
# Fixed decimal places

The text of a floating-point number with a fixed number of decimal places. The number is taken
exactly and a tie goes to the even neighbour.
-/

namespace SourceAudit.Decimal

/-- Numerator and denominator of the size of a finite number. -/
def magnitude (x : Float) : Nat × Nat :=
  let bits := x.toBits.toNat
  let fraction := bits % twoTo 52
  let exponent := bits / twoTo 52 % twoTo 11
  let m := if exponent = 0 then fraction else twoTo 52 + fraction
  let e := if exponent = 0 then 1 else exponent
  if 1075 ≤ e then (m * twoTo (e - 1075), 1) else (m, twoTo (1075 - e))

/-- The sign bit is set. -/
def isNegative (x : Float) : Bool :=
  x.toBits.toNat / twoTo 63 == 1

/-- The text of a finite number with `places` decimal places; a set sign bit shows, also of zero. -/
def fixed (places : Nat) (x : Float) : String :=
  let (num, den) := magnitude x
  let scaled := roundDiv (num * tenTo places) den
  let digits := Nat.repr (scaled % tenTo places)
  let fraction := String.ofList (List.replicate (places - digits.length) '0') ++ digits
  (if isNegative x then "-" else "") ++ Nat.repr (scaled / tenTo places) ++ "." ++ fraction

end SourceAudit.Decimal
