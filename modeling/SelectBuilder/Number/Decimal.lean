namespace SelectBuilder

/-!
# Decimal numbers and their layouts

A `Decimal` is a number of digits and a power of ten.  How it is laid out in
text is the decision of whoever writes it, and is held in one `Layout`.
-/

/-- The number `digits * 10 ^ exponent`. -/
structure Decimal where
  digits : Nat
  exponent : Int
deriving DecidableEq, Repr

/-- How many decimal digits a number has; zero has one. -/
def digitCount (number : Nat) : Nat :=
  (Nat.toDigits 10 number).length

/-- The text of an integer: its digits, behind a minus sign below zero. -/
def integerText (integer : Int) : String :=
  if integer < 0 then "-" ++ integer.natAbs.repr else integer.natAbs.repr

/-- The digits of a number, with zeros in front up to the given width. -/
def paddedText (width number : Nat) : String :=
  String.ofList
    (List.replicate (width - digitCount number) '0' ++ Nat.toDigits 10 number)

namespace Decimal

/-- The exponent of the first digit, when one digit stands before the point. -/
def leadingExponent (decimal : Decimal) : Int :=
  decimal.exponent + digitCount decimal.digits - 1

/-- Drop zeros from the end of the digits, at most as many as `places`. -/
def dropZeros : Nat -> Decimal -> Decimal
  | 0, decimal => decimal
  | places + 1, decimal =>
      if decimal.digits % 10 = 0 then
        dropZeros places ⟨decimal.digits / 10, decimal.exponent + 1⟩
      else decimal

/-- The same number without zeros at the end of its digits. -/
def reduce (decimal : Decimal) : Decimal :=
  dropZeros (digitCount decimal.digits - 1) decimal

/-- Which of two equally near decimals is taken. -/
inductive Tie where
  | up
  | even
deriving DecidableEq, Repr

/-- Where a number is laid out with its point in place, and where with an
exponent; whether a whole number keeps a point and a zero; and which digits it
has when two decimals would do equally well. -/
structure Layout where
  inPlace : Int -> Bool
  keepsPoint : Bool
  tie : Tie

/-- The digits with the point in its place, and zeros as far as it needs. -/
def inPlaceText (keepsPoint : Bool) (decimal : Decimal) : String :=
  let digits := Nat.toDigits 10 decimal.digits
  let places := (-decimal.exponent).toNat
  if 0 ≤ decimal.exponent then
    String.ofList (digits ++ List.replicate decimal.exponent.toNat '0')
      ++ (if keepsPoint then ".0" else "")
  else if places < digits.length then
    String.ofList
      (digits.take (digits.length - places) ++ '.' :: digits.drop (digits.length - places))
  else
    String.ofList ('0' :: '.' :: List.replicate (places - digits.length) '0' ++ digits)

/-- One digit, the others behind a point, and the exponent with its sign. -/
def scientificText (decimal : Decimal) : String :=
  let sign := if decimal.leadingExponent < 0 then "e-" else "e+"
  let exponent := sign ++ decimal.leadingExponent.natAbs.repr
  match Nat.toDigits 10 decimal.digits with
  | [] => exponent
  | [first] => String.ofList [first] ++ exponent
  | first :: rest => String.ofList (first :: '.' :: rest) ++ exponent

def Layout.write (layout : Layout) (decimal : Decimal) : String :=
  if layout.inPlace decimal.leadingExponent then inPlaceText layout.keepsPoint decimal
  else scientificText decimal

end Decimal
end SelectBuilder
