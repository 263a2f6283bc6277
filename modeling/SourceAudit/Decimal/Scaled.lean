import SourceAudit.Decimal.Bound
import SourceAudit.Text.Number

/-!
# Scaled numbers

Decimal numbers of any length, held as an integer of 64 bits and a power of ten. Digits are taken as
long as the integer has room; those in front of the point that are left out count in the power of ten
only, and those behind it not at all. The float of such a number is the product of two floats: that of
the integer and that of the power.
-/

namespace SourceAudit.Decimal

/-- An integer times a power of ten. -/
structure Scaled where
  digits : Nat
  exponent : Int
deriving DecidableEq, Repr

namespace Scaled

/-- Takes digits as long as the integer has room. The outcome holds the digits that are left. -/
def append (n : Nat) : List Char → Nat × List Char
  | [] => (n, [])
  | c :: r =>
    let next := n * 10 + Text.digitValue c
    if fitsUnsigned next then append next r else (n, c :: r)

/-- The number with these digits in front of the point and behind it, times a power of ten. -/
def ofDigits (whole fraction : List Char) (exponent : Int) : Scaled :=
  let (n, wholeLeft) := append 0 whole
  let (n, fractionLeft) := append n fraction
  ⟨n, exponent + wholeLeft.length + fractionLeft.length - fraction.length⟩

/-- The greatest power of ten that is a finite float. -/
def maxExponent : Int := 308

/-- The float of the number is finite. -/
def isFinite (s : Scaled) : Bool :=
  s.digits = 0 || s.exponent < 0 ||
    (s.exponent ≤ maxExponent &&
      toFloatDigits s.digits * toFloatDigits (tenTo s.exponent.toNat) < finiteBound)

end Scaled

end SourceAudit.Decimal
