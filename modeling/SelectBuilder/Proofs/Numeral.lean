import SelectBuilder.Value

namespace SelectBuilder

/-!
# The numerals of numeric values

Numeric values stand bare in SQL, so what they look like matters to every
reader of it.  Their texts are plain decimal numerals: a sign perhaps, digits,
and perhaps a point with more digits behind it.  The numeral says which number
is meant, and not whether an integer or a float was given.
-/

/-- The decimal number `digits / 10 ^ places`, or its negative.  Zero has a
sign too, as it is written. -/
structure Number where
  negative : Bool
  digits : Nat
  places : Nat
deriving DecidableEq, Repr

/-- The decimal number that a finite float is written as. -/
def Number.ofMagnitude (negative : Bool) (magnitude : Magnitude) : Number :=
  let decimal := magnitude.shortest Value.floatLayout.tie
  ⟨negative, decimal.digits * Nat.pow 10 decimal.exponent.toNat, (-decimal.exponent).toNat⟩

/-- The number of a numeric value. -/
def Value.number? : Value -> Option Number
  | .integer value => some ⟨value.toInt < 0, value.toInt.natAbs, 0⟩
  | .float value =>
      match value.read with
      | .finite negative magnitude => some (.ofMagnitude negative magnitude)
      | _ => none
  | _ => none

theorem Value.isNumeric_eq_isSome_number? (value : Value) :
    value.isNumeric = value.number?.isSome := by
  cases value with
  | float value =>
      simp only [isNumeric, Double.isFinite, number?]
      cases value.read <;> rfl
  | _ => rfl

/-- A numeral by its parts.  Without digits behind the point there is no point. -/
structure Numeral where
  negative : Bool
  whole : List Char
  fraction : List Char
  whole_ne_nil : whole ≠ []
  isDigit_of_mem : forall character, character ∈ whole ++ fraction -> character.isDigit = true

namespace Numeral

def minus (negative : Bool) : List Char :=
  if negative then ['-'] else []

/-- The point and the digits behind it. -/
def tail (numeral : Numeral) : List Char :=
  match numeral.fraction with
  | [] => []
  | digits => '.' :: digits

def text (numeral : Numeral) : List Char :=
  minus numeral.negative ++ numeral.whole ++ numeral.tail

def number (numeral : Numeral) : Number :=
  ⟨numeral.negative, Nat.ofDigitChars 10 (numeral.whole ++ numeral.fraction) 0,
    numeral.fraction.length⟩

theorem isDigit_toDigits {number : Nat} {character : Char}
    (member : character ∈ Nat.toDigits 10 number) : character.isDigit = true :=
  Nat.isDigit_of_mem_toDigits (by decide) (by decide) member

theorem isDigit_replicate {count : Nat} {character : Char}
    (member : character ∈ List.replicate count '0') : character.isDigit = true := by
  rw [List.eq_of_mem_replicate member]
  rfl

/-- Digits alone. -/
def ofNat (negative : Bool) (number : Nat) : Numeral where
  negative := negative
  whole := Nat.toDigits 10 number
  fraction := []
  whole_ne_nil := Nat.toDigits_ne_nil
  isDigit_of_mem character member := by
    rw [List.append_nil] at member
    exact isDigit_toDigits member

theorem number_ofNat (negative : Bool) (number : Nat) :
    (ofNat negative number).number = ⟨negative, number, 0⟩ := by
  simp [ofNat, Numeral.number]

/-- Digits with zeros behind them, for a decimal without places. -/
def scaledUp (negative : Bool) (digits zeros : Nat) : Numeral where
  negative := negative
  whole := Nat.toDigits 10 digits ++ List.replicate zeros '0'
  fraction := []
  whole_ne_nil := by simp
  isDigit_of_mem character member := by
    rw [List.append_nil] at member
    rcases List.mem_append.mp member with front | back
    · exact isDigit_toDigits front
    · exact isDigit_replicate back

/-- Digits with a point between them. -/
def pointInside (negative : Bool) (digits places : Nat)
    (room : places < (Nat.toDigits 10 digits).length) : Numeral where
  negative := negative
  whole := (Nat.toDigits 10 digits).take ((Nat.toDigits 10 digits).length - places)
  fraction := (Nat.toDigits 10 digits).drop ((Nat.toDigits 10 digits).length - places)
  whole_ne_nil := by
    intro none
    have length := congrArg List.length none
    rw [List.length_take, List.length_nil] at length
    omega
  isDigit_of_mem character member := by
    rw [List.take_append_drop] at member
    exact isDigit_toDigits member

/-- A zero, a point, and the digits behind as many zeros as it takes. -/
def pointInFront (negative : Bool) (digits places : Nat) : Numeral where
  negative := negative
  whole := ['0']
  fraction :=
    List.replicate (places - (Nat.toDigits 10 digits).length) '0' ++ Nat.toDigits 10 digits
  whole_ne_nil := by simp
  isDigit_of_mem character member := by
    rcases List.mem_append.mp member with zero | behind
    · rw [List.mem_singleton.mp zero]
      rfl
    · rcases List.mem_append.mp behind with front | back
      · exact isDigit_replicate front
      · exact isDigit_toDigits back

/-- A decimal with its point in place is a numeral, and the number that the numeral
means is the decimal. -/
theorem exists_inPlaceText (negative : Bool) (decimal : Decimal) :
    ∃ numeral : Numeral,
      numeral.text = minus negative ++ (decimal.inPlaceText false).toList ∧
        numeral.number =
          ⟨negative, decimal.digits * Nat.pow 10 decimal.exponent.toNat,
            (-decimal.exponent).toNat⟩ := by
  rcases decimal with ⟨digits, exponent⟩
  by_cases isWhole : 0 ≤ exponent
  · have noPlaces : (-exponent).toNat = 0 := by omega
    refine ⟨scaledUp negative digits exponent.toNat, ?_, ?_⟩
    · simp [scaledUp, text, tail, Decimal.inPlaceText, isWhole]
    · simp [scaledUp, number, Nat.ofDigitChars_append, noPlaces, Nat.mul_comm]
  · have noScale : exponent.toNat = 0 := by omega
    have somePlaces : 0 < (-exponent).toNat := by omega
    by_cases room : (-exponent).toNat < (Nat.toDigits 10 digits).length
    · refine ⟨pointInside negative digits (-exponent).toNat room, ?_, ?_⟩
      · have behind : (Nat.toDigits 10 digits).drop
            ((Nat.toDigits 10 digits).length - (-exponent).toNat) ≠ [] := by
          intro none
          have length := congrArg List.length none
          rw [List.length_drop, List.length_nil] at length
          omega
        cases fraction : (Nat.toDigits 10 digits).drop
            ((Nat.toDigits 10 digits).length - (-exponent).toNat) with
        | nil => exact absurd fraction behind
        | cons first rest =>
            simp [pointInside, text, tail, Decimal.inPlaceText, isWhole, room, fraction]
      · simp only [pointInside, number, List.take_append_drop, Nat.ofDigitChars_ten_toDigits,
          List.length_drop, noScale, Nat.pow_eq, Nat.pow_zero,
          Nat.mul_one]
        congr 1
        omega
    · refine ⟨pointInFront negative digits (-exponent).toNat, ?_, ?_⟩
      · have behind : List.replicate ((-exponent).toNat - (Nat.toDigits 10 digits).length) '0' ++
            Nat.toDigits 10 digits ≠ [] := by simp
        cases fraction : List.replicate ((-exponent).toNat - (Nat.toDigits 10 digits).length) '0' ++
            Nat.toDigits 10 digits with
        | nil => exact absurd fraction behind
        | cons first rest =>
            simp [pointInFront, text, tail, Decimal.inPlaceText, isWhole, room, fraction]
      · simp only [pointInFront, number, Nat.ofDigitChars_append, Nat.ofDigitChars_replicate_zero,
          List.length_append, List.length_replicate, noScale, Nat.pow_eq, Nat.pow_zero,
          Nat.mul_one]
        have zero : Nat.ofDigitChars 10 ['0'] 0 = 0 := rfl
        rw [zero, Nat.mul_zero, Nat.ofDigitChars_ten_toDigits]
        congr 1
        omega

end Numeral

/-- Different natural numbers have different numerals. -/
theorem eq_of_repr_eq {first second : Nat} (same : first.repr = second.repr) : first = second := by
  have characters := congrArg String.toList same
  rw [Nat.toList_repr, Nat.toList_repr] at characters
  have numbers := congrArg (fun digits => Nat.ofDigitChars 10 digits 0) characters
  simpa only [Nat.ofDigitChars_ten_toDigits] using numbers

theorem toList_integerText (integer : Int) :
    (integerText integer).toList =
      Numeral.minus (integer < 0) ++ Nat.toDigits 10 integer.natAbs := by
  by_cases negative : integer < 0 <;> simp [integerText, Numeral.minus, negative]

/-- The text of a numeric value is a numeral, and the numeral means its number. -/
theorem Value.exists_numeral {value : Value} {number : Number}
    (isNumber : value.number? = some number) :
    ∃ numeral : Numeral, numeral.text = value.display.toList ∧ numeral.number = number := by
  cases value with
  | integer value =>
      cases isNumber
      refine ⟨.ofNat (value.toInt < 0) value.toInt.natAbs, ?_, Numeral.number_ofNat _ _⟩
      simp [display, toList_integerText, Numeral.text, Numeral.ofNat, Numeral.tail]
  | float value =>
      simp only [number?] at isNumber
      cases read : value.read with
      | finite negative magnitude =>
          rw [read] at isNumber
          cases isNumber
          obtain ⟨numeral, sameText, sameNumber⟩ :=
            Numeral.exists_inPlaceText negative (magnitude.shortest floatLayout.tie)
          refine ⟨numeral, ?_, sameNumber⟩
          rw [sameText]
          cases negative <;>
            simp [display, floatText, read, Decimal.Layout.writeSigned, Decimal.Layout.write,
              floatLayout, Numeral.minus]
      | notANumber => rw [read] at isNumber; cases isNumber
      | infinite negative => rw [read] at isNumber; cases isNumber
  | _ => cases isNumber

theorem Value.exists_numeral_of_isNumeric {value : Value} (numeric : value.isNumeric = true) :
    ∃ numeral : Numeral, numeral.text = value.display.toList := by
  rw [isNumeric_eq_isSome_number?] at numeric
  rcases Option.isSome_iff_exists.mp numeric with ⟨number, isNumber⟩
  rcases exists_numeral isNumber with ⟨numeral, sameText, -⟩
  exact ⟨numeral, sameText⟩

end SelectBuilder
