import SelectBuilder.Proofs.NearestNumber
import SelectBuilder.Proofs.NormalForm

namespace SelectBuilder

/-!
# The values behind bare numbers

A number in SQL does not say whether it was given as an integer or as a float.  It says
the rest: its digits are those of one integer, and the nearest number of double
precision is the one float that is written like this.
-/

namespace Number

def decimal (number : Number) : Decimal :=
  ⟨number.digits, -(number.places : Int)⟩

/-- The integer with these digits. -/
def integer (number : Number) : Int64 :=
  Int64.ofInt (if number.negative then -(number.digits : Int) else number.digits)

/-- The nearest number of double precision. -/
def double (number : Number) : Double :=
  .ofParts number.negative (BinaryFormat.double.nearest number.decimal)

/-- The values that are written as the number: no more than an integer and a float. -/
def readings (number : Number) : List Value :=
  [.integer number.integer, .float number.double].filter fun value => value.number? = some number

/-- An integer is read back from its sign and its digits. -/
theorem integer_of_toInt (value : Int64) :
    (Number.mk (value.toInt < 0) value.toInt.natAbs 0).integer = value := by
  have signed : (if decide (value.toInt < 0) = true then -(value.toInt.natAbs : Int)
      else value.toInt.natAbs) = value.toInt := by
    simp only [decide_eq_true_eq]
    omega
  rw [integer, signed, Int64.ofInt_toInt]

theorem value_decimal_ofMagnitude (negative : Bool) (magnitude : Magnitude) :
    (ofMagnitude negative magnitude).decimal.value =
      (magnitude.shortest Value.floatLayout.tie).value := by
  have places : (10 : ℚ) ^ (-(magnitude.shortest Value.floatLayout.tie).exponent).toNat ≠ 0 := by
    positivity
  rw [Decimal.value, decimal, ofMagnitude, Decimal.numerator_eq, zpow_neg, zpow_natCast,
    mul_inv_cancel_right₀ places]

theorem nearest_decimal_ofMagnitude {bits : Nat} (negative : Bool)
    (finite : BinaryFormat.double.exponentField bits ≠ BinaryFormat.double.topField) :
    BinaryFormat.double.nearest
        (ofMagnitude negative (BinaryFormat.double.magnitude bits)).decimal =
      BinaryFormat.double.pattern bits := by
  rcases Nat.eq_zero_or_pos (BinaryFormat.double.magnitude bits).significand with zero | positive
  · rw [BinaryFormat.pattern_of_zero zero]
    simp [BinaryFormat.nearest, decimal, ofMagnitude, Magnitude.shortest, zero]
  · apply BinaryFormat.nearest_of_covers finite positive
    rw [value_decimal_ofMagnitude]
    exact Magnitude.covers_shortest (BinaryFormat.isNarrow_double positive) _

end Number

/-- A number of double precision is its sign and its pattern. -/
theorem Double.ofParts_pattern (number : Double) :
    ofParts (BinaryFormat.double.isNegative number.bits.toNat)
      (BinaryFormat.double.pattern number.bits.toNat) = number := by
  have width := number.bits.toNat_lt
  have sign : BinaryFormat.double.isNegative number.bits.toNat = true ↔
      number.bits.toNat / 2 ^ 63 % 2 = 1 := decide_eq_true_iff
  have pattern : BinaryFormat.double.pattern number.bits.toNat =
      number.bits.toNat % 2 ^ 52 + number.bits.toNat / 2 ^ 52 % 2 ^ 11 * 2 ^ 52 := rfl
  have whole : BinaryFormat.double.pattern number.bits.toNat +
      (if BinaryFormat.double.isNegative number.bits.toNat then Nat.pow 2 63 else 0) =
        number.bits.toNat := by
    rw [pattern, Nat.pow_eq]
    by_cases negative : BinaryFormat.double.isNegative number.bits.toNat = true
    · have top := sign.mp negative
      rw [if_pos negative]
      omega
    · have top := mt sign.mpr negative
      rw [if_neg negative]
      omega
  rw [ofParts, whole, UInt64.ofNat_toNat]

/-- A float is read back from the number that it is written as. -/
theorem Double.double_ofMagnitude {number : Double} {negative : Bool} {magnitude : Magnitude}
    (read : number.read = .finite negative magnitude) :
    (Number.ofMagnitude negative magnitude).double = number := by
  unfold Double.read BinaryFormat.read at read
  split at read
  · split at read <;> cases read
  · next finite =>
      cases read
      rw [Number.double, Number.nearest_decimal_ofMagnitude _ finite]
      exact number.ofParts_pattern

/-- What is written as a number is its integer or its float. -/
theorem Value.eq_of_number? {value : Value} {number : Number}
    (isNumber : value.number? = some number) :
    value = .integer number.integer ∨ value = .float number.double := by
  cases value with
  | integer value =>
      cases isNumber
      exact .inl (congrArg Value.integer (Number.integer_of_toInt value).symm)
  | float value =>
      simp only [number?] at isNumber
      cases read : value.read with
      | finite negative magnitude =>
          rw [read] at isNumber
          cases isNumber
          exact .inr (congrArg Value.float (Double.double_ofMagnitude read).symm)
      | notANumber => rw [read] at isNumber; cases isNumber
      | infinite negative => rw [read] at isNumber; cases isNumber
  | _ => cases isNumber

/-- The readings of a number are exactly the values that are written as it. -/
theorem Number.mem_readings_iff {number : Number} {value : Value} :
    value ∈ number.readings ↔ value.number? = some number := by
  rw [readings, List.mem_filter, decide_eq_true_eq, and_iff_right_iff_imp]
  intro isNumber
  rcases Value.eq_of_number? isNumber with integer | float
  · rw [integer]
    exact List.mem_cons_self
  · rw [float]
    exact List.mem_cons_of_mem _ List.mem_cons_self

namespace Scalar

/-- The values that a scalar can have been written for. -/
def readings : Scalar -> List Value
  | .number bare => bare.readings
  | .value bound => [bound]
  | .null | .raw _ => []

theorem mem_readings_ofValue (given : Value) : given ∈ (ofValue given).readings := by
  unfold ofValue
  cases isNumber : given.number? with
  | none => exact List.mem_cons_self
  | some bare => exact Number.mem_readings_iff.mpr isNumber

/-- The scalars of a list are written for its values, one for each. -/
theorem readings_ofValues (values : List Value) :
    List.Forall₂ (fun given scalar => given ∈ scalar.readings) values (ofValues values) := by
  unfold ofValues
  split
  · rw [List.forall₂_map_right_iff, List.forall₂_same]
    exact fun given _ => mem_readings_ofValue given
  · rw [List.forall₂_map_right_iff, List.forall₂_same]
    exact fun _ _ => List.mem_cons_self

end Scalar

/-- The terms that a right side can have been written for.  Only numbers leave a choice. -/
inductive RightSide.StandsFor : RightSide -> Term -> Prop
  | null : StandsFor (.single .null) .null
  | scalar {scalar : Scalar} {value : Value} (reading : value ∈ scalar.readings) :
      StandsFor (.single scalar) (.scalar value)
  | list {scalars : List Scalar} {values : List Value}
      (readings : List.Forall₂ (fun value scalar => value ∈ scalar.readings) values scalars) :
      StandsFor (.tuple scalars) (.list values)
  | raw (sql : String) : StandsFor (.single (.raw sql)) (.raw sql)

theorem Term.rightSide_standsFor (term : Term) : term.rightSide.StandsFor term := by
  cases term with
  | null => exact .null
  | scalar value => exact .scalar (Scalar.mem_readings_ofValue value)
  | list values => exact .list (Scalar.readings_ofValues values)
  | raw sql => exact .raw sql

end SelectBuilder
