import SelectBuilder.Number.Shortest

namespace SelectBuilder

/-!
# From single to double precision

A number of single precision is widened through its own shortest decimal, so
that the digits a reader sees stay the same: one tenth stays `0.1`, and does
not pick up the digits of the nearest multiple of a power of two.  Of two
equally near decimals the greater one counts, as in plain text.
-/

/-- The quotient, rounded to the nearest integer, a half to the even one. -/
def roundedQuotient (numerator denominator : Nat) : Nat :=
  let quotient := numerator / denominator
  let remainder := numerator % denominator
  if 2 * remainder < denominator then quotient
  else if denominator < 2 * remainder then quotient + 1
  else quotient + quotient % 2

/-- The exponent of the greatest power of two that is not above a fraction. -/
def binaryExponent (numerator denominator : Nat) : Int :=
  let guess : Int := (numerator.log2 : Int) - denominator.log2
  if numerator * Nat.pow 2 (-guess).toNat < denominator * Nat.pow 2 guess.toNat then guess - 1
  else guess

namespace BinaryFormat

/-- The pattern of the number nearest to a decimal, without its sign.  Rounding up to
a power of two carries into the exponent field, and past the greatest number
the pattern is the infinite one. -/
def nearest (format : BinaryFormat) (decimal : Decimal) : Nat :=
  if decimal.digits = 0 then 0
  else
    let numerator := decimal.digits * Nat.pow 10 decimal.exponent.toNat
    let denominator := Nat.pow 10 (-decimal.exponent).toNat
    let exponent :=
      max (binaryExponent numerator denominator - format.fractionBits) format.leastExponent
    let significand :=
      roundedQuotient (numerator * Nat.pow 2 (-exponent).toNat)
        (denominator * Nat.pow 2 exponent.toNat)
    min (significand + (exponent - format.leastExponent).toNat * Nat.pow 2 format.fractionBits)
      (format.topField * Nat.pow 2 format.fractionBits)

end BinaryFormat

namespace Double

def ofParts (negative : Bool) (pattern : Nat) : Double :=
  ⟨UInt64.ofNat (pattern + (if negative then Nat.pow 2 63 else 0))⟩

def infinity (negative : Bool) : Double :=
  ofParts negative (BinaryFormat.double.topField * Nat.pow 2 52)

def notANumber : Double :=
  ofParts false (BinaryFormat.double.topField * Nat.pow 2 52 + Nat.pow 2 51)

end Double

def Single.widen (number : Single) : Double :=
  match number.read with
  | .notANumber => .notANumber
  | .infinite negative => .infinity negative
  | .finite negative magnitude =>
      .ofParts negative (BinaryFormat.double.nearest (magnitude.shortest .up))

end SelectBuilder
