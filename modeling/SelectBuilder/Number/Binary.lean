namespace SelectBuilder

/-!
# Binary floating point numbers

A number is kept as the bit pattern of its interchange format, and read as an
exact multiple of a power of two.  All that is decided about such
numbers (their text, their class, when two of them are equal) is decided in
exact integers from that reading.
-/

/-- The widths of the two fields behind the sign bit. -/
structure BinaryFormat where
  fractionBits : Nat
  exponentBits : Nat

/-- A positive number or zero: `significand * 2 ^ exponent`.  The number below it
is nearer than the one above it when it is the least of its power of two. -/
structure Magnitude where
  significand : Nat
  exponent : Int
  nearerBelow : Bool

/-- What a bit pattern stands for. -/
inductive BinaryReading where
  | notANumber
  | infinite (negative : Bool)
  | finite (negative : Bool) (magnitude : Magnitude)

namespace BinaryFormat

def single : BinaryFormat := ⟨23, 8⟩

def double : BinaryFormat := ⟨52, 11⟩

/-- The exponent field of the patterns that stand for no finite number. -/
def topField (format : BinaryFormat) : Nat :=
  Nat.pow 2 format.exponentBits - 1

/-- The exponent of the smallest step between two numbers. -/
def leastExponent (format : BinaryFormat) : Int :=
  2 - Nat.pow 2 (format.exponentBits - 1) - format.fractionBits

def fraction (format : BinaryFormat) (bits : Nat) : Nat :=
  bits % Nat.pow 2 format.fractionBits

def exponentField (format : BinaryFormat) (bits : Nat) : Nat :=
  bits / Nat.pow 2 format.fractionBits % Nat.pow 2 format.exponentBits

def isNegative (format : BinaryFormat) (bits : Nat) : Bool :=
  bits / Nat.pow 2 (format.fractionBits + format.exponentBits) % 2 = 1

/-- A pattern with exponent field zero has no implicit leading bit, and the
same step as those with exponent field one. -/
def magnitude (format : BinaryFormat) (bits : Nat) : Magnitude :=
  let field := format.exponentField bits
  let fraction := format.fraction bits
  if field = 0 then ⟨fraction, format.leastExponent, false⟩
  else
    ⟨Nat.pow 2 format.fractionBits + fraction, format.leastExponent + (field - 1 : Nat),
      fraction = 0 && 1 < field⟩

def read (format : BinaryFormat) (bits : Nat) : BinaryReading :=
  if format.exponentField bits = format.topField then
    if format.fraction bits = 0 then .infinite (format.isNegative bits) else .notANumber
  else .finite (format.isNegative bits) (format.magnitude bits)

end BinaryFormat

/-- A number of single precision. -/
structure Single where
  bits : UInt32
deriving DecidableEq, Repr

def Single.read (number : Single) : BinaryReading :=
  BinaryFormat.single.read number.bits.toNat

/-- A number of double precision. -/
structure Double where
  bits : UInt64
deriving DecidableEq, Repr

namespace Double

def read (number : Double) : BinaryReading :=
  BinaryFormat.double.read number.bits.toNat

def isFinite (number : Double) : Bool :=
  match number.read with
  | .finite _ _ => true
  | _ => false

/-- The numbers that a pattern stands for are compared, not the patterns: the
two zeros are equal, and what is not a number is not even equal to itself. -/
def agrees (first second : Double) : Bool :=
  match first.read, second.read with
  | .notANumber, _ | _, .notANumber => false
  | .finite _ left, .finite _ right =>
      first.bits = second.bits || left.significand = 0 && right.significand = 0
  | _, _ => first.bits = second.bits

end Double
end SelectBuilder
