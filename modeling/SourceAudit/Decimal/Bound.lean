/-!
# Powers, bounds and rounding

Powers of two and ten, what fits in a number of a machine, and rounding to the nearest integer and to
the nearest float.
-/

/-! ## Powers and bounds -/

namespace SourceAudit.Decimal

/-- A power of two. -/
def twoTo (n : Nat) : Nat := Nat.pow 2 n

/-- A power of ten. -/
def tenTo (n : Nat) : Nat := Nat.pow 10 n

/-- The number of words of 64 bits. -/
def wordCount : Nat := 18446744073709551616

/-- A number without a sign that fits in 64 bits. -/
def fitsUnsigned (n : Nat) : Bool :=
  n < wordCount

/-- A number with a sign that fits in 64 bits. -/
def fitsSigned (n : Int) : Bool :=
  -9223372036854775808 ≤ n && n < 9223372036854775808

/-- The middle between the largest finite float and the next power of two. -/
def finiteBound : Nat := twoTo 1024 - twoTo 970

/-- The decimal number `digits · 10^exponent` rounds to a finite float. -/
def isFinite (digits : Nat) (exponent : Int) : Bool :=
  if digits = 0 then true
  else if exponent < 0 then
    let n := (-exponent).toNat
    -- ten to the power of 400 is beyond all finite floats
    if n > (Nat.repr digits).length + 400 then true
    else digits < finiteBound * tenTo n
  else if exponent > 400 then false
  else digits * tenTo exponent.toNat < finiteBound

end SourceAudit.Decimal

/-! ## Rounding -/

namespace SourceAudit.Decimal

/-- The quotient rounded to the nearest integer, a tie to the even one. -/
def roundDiv (num den : Nat) : Nat :=
  let q := num / den
  let twice := 2 * (num % den)
  if twice > den || (twice == den && q % 2 == 1) then q + 1 else q

/-- The integer rounded to the 53 binary digits of a float, a tie to the even neighbour. -/
def toFloatDigits (n : Nat) : Nat :=
  let unit := twoTo (n.log2 + 1 - 53)
  roundDiv n unit * unit

end SourceAudit.Decimal
