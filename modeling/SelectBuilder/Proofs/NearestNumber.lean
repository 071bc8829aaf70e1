import SelectBuilder.Number.Widening
import SelectBuilder.Proofs.RoundingInterval

namespace SelectBuilder

/-!
# The nearest number to a decimal

Every decimal that rounds to a number has this number as its nearest one, so the shortest
decimal is read back as the number that was written.  The reader scales the decimal by
a power of two and rounds; where the decimal is below a power of two but rounds up to
it, the scale is the one of the numbers below.
-/

/-! ## Rounding to integers -/

/-- The integers that a rational number rounds to, where a half goes to the even one. -/
def RoundsTo (number : ℚ) (rounded : Nat) : Prop :=
  if rounded % 2 = 0 then rounded - 1 / 2 ≤ number ∧ number ≤ rounded + 1 / 2
  else rounded - 1 / 2 < number ∧ number < rounded + 1 / 2

theorem RoundsTo.bounds {number : ℚ} {rounded : Nat} (rounds : RoundsTo number rounded) :
    (rounded - 1 / 2 : ℚ) ≤ number ∧ number ≤ rounded + 1 / 2 := by
  unfold RoundsTo at rounds
  split at rounds
  · exact rounds
  · exact ⟨rounds.1.le, rounds.2.le⟩

theorem RoundsTo.even_of_half {number : ℚ} {rounded : Nat} (rounds : RoundsTo number rounded)
    (half : number = rounded - 1 / 2 ∨ number = rounded + 1 / 2) : rounded % 2 = 0 := by
  unfold RoundsTo at rounds
  split at rounds
  · assumption
  · rcases half with half | half
    · exact absurd half rounds.1.ne'
    · exact absurd half rounds.2.ne

theorem roundedQuotient_eq {numerator denominator rounded : Nat} (positive : 0 < denominator)
    (rounds : RoundsTo (numerator / denominator) rounded) :
    roundedQuotient numerator denominator = rounded := by
  have positiveRat : (0 : ℚ) < denominator := by exact_mod_cast positive
  have low : 2 * rounded * denominator ≤ 2 * numerator + denominator := by
    have bound := (le_div_iff₀ positiveRat).mp rounds.bounds.1
    exact_mod_cast (by linarith : (2 * rounded * denominator : ℚ) ≤ 2 * numerator + denominator)
  have high : 2 * numerator ≤ (2 * rounded + 1) * denominator := by
    have bound := (div_le_iff₀ positiveRat).mp rounds.bounds.2
    exact_mod_cast (by linarith : (2 * numerator : ℚ) ≤ (2 * rounded + 1) * denominator)
  have tie (half : 2 * numerator + denominator = 2 * rounded * denominator ∨
      2 * numerator = (2 * rounded + 1) * denominator) : rounded % 2 = 0 := by
    apply rounds.even_of_half
    rw [div_eq_iff positiveRat.ne', div_eq_iff positiveRat.ne']
    refine half.imp (fun half => ?_) fun half => ?_
    · have half : (2 * numerator + denominator : ℚ) = 2 * rounded * denominator := by
        exact_mod_cast half
      linarith
    · have half : (2 * numerator : ℚ) = (2 * rounded + 1) * denominator := by
        exact_mod_cast half
      linarith
  have whole := Nat.div_add_mod' numerator denominator
  have remains := Nat.mod_lt numerator positive
  unfold roundedQuotient
  generalize numerator / denominator = quotient at *
  generalize numerator % denominator = remainder at *
  subst whole
  have atMost : rounded ≤ quotient + 1 := by
    by_contra more
    have apart := Nat.mul_le_mul_right denominator (Nat.not_le.mp more)
    grind
  have atLeast : quotient ≤ rounded := by
    by_contra less
    have apart := Nat.mul_le_mul_right denominator (Nat.not_le.mp less)
    grind
  rcases (by omega : rounded = quotient ∨ rounded = quotient + 1) with rfl | rfl
  · grind
  · grind

/-! ## Scales -/

/-- A fraction over a power of two is the fraction with the power on either side. -/
theorem scaled_fraction (numerator denominator : Nat) (exponent : Int) :
    ((numerator * Nat.pow 2 (-exponent).toNat : Nat) : ℚ) /
        (denominator * Nat.pow 2 exponent.toNat : Nat) =
      numerator / denominator / 2 ^ exponent := by
  have powers := pow_toNat (show (2 : ℚ) ≠ 0 by norm_num) exponent
  have places : (2 : ℚ) ^ (-exponent).toNat ≠ 0 := by positivity
  simp only [Nat.pow_eq]
  push_cast
  rw [powers, ← mul_assoc, mul_div_mul_right _ _ places, div_div]

/-- The lengths of a numerator and a denominator say between which powers of two the
fraction is. -/
theorem log2_bounds {numerator denominator : Nat} (some : 0 < numerator)
    (positive : 0 < denominator) :
    (2 : ℚ) ^ ((numerator.log2 : Int) - denominator.log2 - 1) ≤ numerator / denominator ∧
      (numerator / denominator : ℚ) < 2 ^ ((numerator.log2 : Int) - denominator.log2 + 1) := by
  have positiveRat : (0 : ℚ) < denominator := by exact_mod_cast positive
  have numeratorLow : (2 : ℚ) ^ numerator.log2 ≤ numerator := by
    exact_mod_cast Nat.log2_self_le some.ne'
  have numeratorHigh : (numerator : ℚ) < 2 ^ (numerator.log2 + 1) := by
    exact_mod_cast Nat.lt_log2_self
  have denominatorLow : (2 : ℚ) ^ denominator.log2 ≤ denominator := by
    exact_mod_cast Nat.log2_self_le positive.ne'
  have denominatorHigh : (denominator : ℚ) ≤ 2 ^ (denominator.log2 + 1) := by
    exact_mod_cast Nat.lt_log2_self.le
  have product (difference : Int) (digits : Nat) :
      (2 : ℚ) ^ difference * 2 ^ digits = 2 ^ (difference + digits) := by
    rw [zpow_add₀ two_ne_zero, zpow_natCast]
  constructor
  · rw [le_div_iff₀ positiveRat]
    calc (2 : ℚ) ^ ((numerator.log2 : Int) - denominator.log2 - 1) * denominator
        ≤ 2 ^ ((numerator.log2 : Int) - denominator.log2 - 1) * 2 ^ (denominator.log2 + 1) := by
          gcongr
      _ = 2 ^ numerator.log2 := by
          rw [product, ← zpow_natCast]
          congr 1
          push_cast
          ring
      _ ≤ numerator := numeratorLow
  · rw [div_lt_iff₀ positiveRat]
    calc (numerator : ℚ)
        < 2 ^ (numerator.log2 + 1) := numeratorHigh
      _ = 2 ^ ((numerator.log2 : Int) - denominator.log2 + 1) * 2 ^ denominator.log2 := by
          rw [product, ← zpow_natCast]
          congr 1
          push_cast
          ring
      _ ≤ 2 ^ ((numerator.log2 : Int) - denominator.log2 + 1) * denominator := by
          gcongr

/-- The binary exponent of a fraction is the one of the power of two just below it. -/
theorem binaryExponent_bounds {numerator denominator : Nat} (some : 0 < numerator)
    (positive : 0 < denominator) :
    (2 : ℚ) ^ binaryExponent numerator denominator ≤ numerator / denominator ∧
      (numerator / denominator : ℚ) < 2 ^ (binaryExponent numerator denominator + 1) := by
  have compared (exponent : Int) :
      numerator * Nat.pow 2 (-exponent).toNat < denominator * Nat.pow 2 exponent.toNat ↔
        (numerator / denominator : ℚ) < 2 ^ exponent := by
    have scaled : (0 : ℚ) < (denominator * Nat.pow 2 exponent.toNat : Nat) := by
      exact_mod_cast Nat.mul_pos positive (Nat.pow_pos (by decide))
    rw [← Nat.cast_lt (α := ℚ), ← div_lt_one scaled, scaled_fraction,
      div_lt_one (zpow_pos (by norm_num) _)]
  rcases log2_bounds some positive with ⟨below, above⟩
  unfold binaryExponent
  simp only [compared]
  split
  · next less => exact ⟨below, by rwa [Int.sub_add_cancel]⟩
  · next notLess => exact ⟨not_lt.mp notLess, above⟩

/-! ## The numbers of a format -/

/-- What the numbers of a format have in common.  Below the least exponent there are none,
above it they have all their digits, and among these only the powers of two are nearer to
the number below. -/
structure Magnitude.Fits (format : BinaryFormat) (magnitude : Magnitude) : Prop where
  below : magnitude.significand < 2 ^ (format.fractionBits + 1)
  least : format.leastExponent ≤ magnitude.exponent
  normal : format.leastExponent < magnitude.exponent ->
    2 ^ format.fractionBits ≤ magnitude.significand
  nearer : magnitude.nearerBelow = true ->
    magnitude.significand = 2 ^ format.fractionBits ∧
      format.leastExponent < magnitude.exponent
  notNearer : magnitude.nearerBelow = false ->
    format.leastExponent < magnitude.exponent ->
      2 ^ format.fractionBits < magnitude.significand

namespace BinaryFormat

variable {format : BinaryFormat}

theorem fits_magnitude (format : BinaryFormat) (bits : Nat) :
    (format.magnitude bits).Fits format := by
  have fraction : format.fraction bits < 2 ^ format.fractionBits :=
    Nat.mod_lt _ (Nat.two_pow_pos _)
  have double := Nat.pow_succ (n := 2) (m := format.fractionBits)
  unfold magnitude
  simp only [Nat.pow_eq]
  split
  · exact ⟨by simp only; omega, by simp, by simp, by simp, by simp⟩
  · refine ⟨by simp only; omega, by simp, by simp, ?_, ?_⟩
    · simp only [Bool.and_eq_true, decide_eq_true_eq]
      omega
    · simp only [Bool.and_eq_false_iff, decide_eq_false_iff_not]
      omega

/-- The bits without the sign. -/
def pattern (format : BinaryFormat) (bits : Nat) : Nat :=
  format.fraction bits + format.exponentField bits * Nat.pow 2 format.fractionBits

/-- The pattern of a number from its significand and its exponent. -/
theorem pattern_eq (format : BinaryFormat) (bits : Nat) :
    format.pattern bits =
      (format.magnitude bits).significand +
        ((format.magnitude bits).exponent - format.leastExponent).toNat *
          2 ^ format.fractionBits := by
  unfold pattern magnitude
  simp only [Nat.pow_eq]
  split
  · next zero => simp [zero]
  · next some =>
      have field : format.exponentField bits = (format.exponentField bits - 1) + 1 := by omega
      have offset : (format.leastExponent + (format.exponentField bits - 1 : Nat) -
          format.leastExponent).toNat = format.exponentField bits - 1 := by omega
      rw [offset, field, Nat.succ_mul]
      simp only [Nat.add_sub_cancel]
      ring

theorem pattern_lt {bits : Nat} (finite : format.exponentField bits ≠ format.topField) :
    format.pattern bits < format.topField * 2 ^ format.fractionBits := by
  have fraction : format.fraction bits < 2 ^ format.fractionBits :=
    Nat.mod_lt _ (Nat.two_pow_pos _)
  have field : format.exponentField bits < 2 ^ format.exponentBits :=
    Nat.mod_lt _ (Nat.two_pow_pos _)
  have lower : format.exponentField bits + 1 ≤ format.topField := by
    unfold topField at finite ⊢
    simp only [Nat.pow_eq] at finite ⊢
    omega
  calc format.pattern bits
      < 2 ^ format.fractionBits + format.exponentField bits * 2 ^ format.fractionBits := by
        unfold pattern
        simp only [Nat.pow_eq]
        omega
    _ = (format.exponentField bits + 1) * 2 ^ format.fractionBits := by ring
    _ ≤ format.topField * 2 ^ format.fractionBits := Nat.mul_le_mul_right _ lower

end BinaryFormat

namespace Magnitude

variable {magnitude : Magnitude} {format : BinaryFormat} {number : ℚ}

theorem low_le (magnitude : Magnitude) :
    (magnitude.significand - 1 / 2) * magnitude.step ≤ magnitude.low := by
  have step := magnitude.step_pos
  rw [low]
  split <;> nlinarith

theorem Covers.pos (covers : magnitude.Covers number) (positive : 0 < magnitude.significand) :
    0 < number := by
  have step := magnitude.step_pos
  have significand : (1 : ℚ) ≤ magnitude.significand := by exact_mod_cast positive
  have bound := covers.bounds.1
  have low := magnitude.low_le
  nlinarith

/-- In steps, what rounds to a number rounds to its significand. -/
theorem Covers.roundsTo (covers : magnitude.Covers number) :
    RoundsTo (number / magnitude.step) magnitude.significand := by
  have step := magnitude.step_pos
  have low := magnitude.low_le
  unfold Covers high at covers
  unfold RoundsTo
  split at covers
  · rw [if_pos ‹_›, le_div_iff₀ step, div_le_iff₀ step]
    exact ⟨low.trans covers.1, covers.2⟩
  · rw [if_neg ‹_›, lt_div_iff₀ step, div_lt_iff₀ step]
    exact ⟨low.trans_lt covers.1, covers.2⟩

/-- Below a power of two the steps are half as long, and what rounds to the power is
rounded to twice its significand. -/
theorem Covers.roundsTo_below (covers : magnitude.Covers number)
    (nearer : magnitude.nearerBelow = true) (below : number < magnitude.value) :
    RoundsTo (number / (magnitude.step / 2)) (2 * magnitude.significand) := by
  have step := magnitude.step_pos
  have bound := covers.bounds.1
  rw [low, nearer, if_pos rfl] at bound
  rw [value] at below
  unfold RoundsTo
  rw [if_pos (by omega), le_div_iff₀ (by positivity), div_le_iff₀ (by positivity)]
  push_cast
  constructor <;> nlinarith

theorem pow_add_exponent (magnitude : Magnitude) (digits : Nat) :
    (2 : ℚ) ^ (digits + magnitude.exponent) = 2 ^ digits * magnitude.step := by
  rw [zpow_add₀ two_ne_zero, zpow_natCast, step]

theorem lt_of_pow_lt {first second : Int} (less : (2 : ℚ) ^ first < 2 ^ second) :
    first < second :=
  (zpow_lt_zpow_iff_right₀ (by norm_num)).mp less

/-- What rounds to a number has no more digits than the numbers of the format. -/
theorem Covers.leading_lt (covers : magnitude.Covers number) (fits : magnitude.Fits format)
    {leading : Int} (atLeast : (2 : ℚ) ^ leading ≤ number) :
    leading < (format.fractionBits + 1 : Nat) + magnitude.exponent := by
  have step := magnitude.step_pos
  have significand : (magnitude.significand : ℚ) + 1 ≤ 2 ^ (format.fractionBits + 1) := by
    exact_mod_cast fits.below
  apply lt_of_pow_lt
  rw [pow_add_exponent]
  calc (2 : ℚ) ^ leading ≤ number := atLeast
    _ ≤ (magnitude.significand + 1 / 2) * magnitude.step := covers.bounds.2
    _ < 2 ^ (format.fractionBits + 1) * magnitude.step := by nlinarith

/-- It has as many digits, unless the number is a power of two. -/
theorem Covers.lt_leading (covers : magnitude.Covers number) (fits : magnitude.Fits format)
    (normal : format.leastExponent < magnitude.exponent)
    (notNearer : magnitude.nearerBelow = false) {leading : Int}
    (below : number < 2 ^ (leading + 1)) :
    format.fractionBits + magnitude.exponent < leading + 1 := by
  have step := magnitude.step_pos
  have significand : (2 : ℚ) ^ format.fractionBits + 1 ≤ magnitude.significand := by
    exact_mod_cast fits.notNearer notNearer normal
  apply lt_of_pow_lt
  rw [pow_add_exponent]
  calc (2 : ℚ) ^ format.fractionBits * magnitude.step
      < (magnitude.significand - 1 / 2) * magnitude.step := by nlinarith
    _ ≤ magnitude.low := magnitude.low_le
    _ ≤ number := covers.bounds.1
    _ < 2 ^ (leading + 1) := below

/-- What rounds to a power of two has one digit less at most. -/
theorem Covers.lt_leading_of_nearer (covers : magnitude.Covers number)
    (fits : magnitude.Fits format) (nearer : magnitude.nearerBelow = true) {leading : Int}
    (below : number < 2 ^ (leading + 1)) :
    format.fractionBits + magnitude.exponent < leading + 1 + 1 := by
  have step := magnitude.step_pos
  have significand : (magnitude.significand : ℚ) = 2 ^ format.fractionBits := by
    exact_mod_cast (fits.nearer nearer).1
  have some : (1 : ℚ) ≤ 2 ^ format.fractionBits := one_le_pow₀ (by norm_num)
  apply lt_of_pow_lt
  rw [pow_add_exponent, zpow_add_one₀ two_ne_zero]
  calc (2 : ℚ) ^ format.fractionBits * magnitude.step
      ≤ (magnitude.significand - 1 / 2) * magnitude.step * 2 := by nlinarith
    _ ≤ magnitude.low * 2 := by linarith [magnitude.low_le]
    _ ≤ number * 2 := by linarith [covers.bounds.1]
    _ < 2 ^ (leading + 1) * 2 := by linarith

/-- The exponent that the reader finds is the number's own, or the next one below a power
of two. -/
theorem Covers.exponent_cases (covers : magnitude.Covers number) (fits : magnitude.Fits format)
    {leading : Int} (atLeast : (2 : ℚ) ^ leading ≤ number)
    (below : number < 2 ^ (leading + 1)) :
    max (leading - format.fractionBits) format.leastExponent = magnitude.exponent ∨
      max (leading - format.fractionBits) format.leastExponent = magnitude.exponent - 1 ∧
        magnitude.nearerBelow = true ∧ number < magnitude.value := by
  have upper := covers.leading_lt fits atLeast
  have least := fits.least
  by_cases normal : format.leastExponent < magnitude.exponent
  · cases nearer : magnitude.nearerBelow with
    | false =>
        have lower := covers.lt_leading fits normal nearer below
        exact .inl (by omega)
    | true =>
        have lower := covers.lt_leading_of_nearer fits nearer below
        rcases (by omega : leading - format.fractionBits = magnitude.exponent ∨
            leading - format.fractionBits = magnitude.exponent - 1) with own | next
        · exact .inl (by omega)
        · refine .inr ⟨by omega, rfl, ?_⟩
          have same : leading + 1 = format.fractionBits + magnitude.exponent := by omega
          have power : (magnitude.significand : ℚ) = 2 ^ format.fractionBits := by
            exact_mod_cast (fits.nearer nearer).1
          rwa [value, power, ← pow_add_exponent, ← same]
  · exact .inl (by omega)

end Magnitude

namespace BinaryFormat

variable {format : BinaryFormat}

/-- A decimal is read as the number that it rounds to. -/
theorem nearest_of_covers {bits : Nat} {decimal : Decimal}
    (finite : format.exponentField bits ≠ format.topField)
    (positive : 0 < (format.magnitude bits).significand)
    (covers : (format.magnitude bits).Covers decimal.value) :
    format.nearest decimal = format.pattern bits := by
  have fits := format.fits_magnitude bits
  have some : 0 < decimal.digits := by
    have value := covers.pos positive
    rcases Nat.eq_zero_or_pos decimal.digits with zero | some
    · simp [Decimal.value, zero] at value
    · exact some
  have numerator : 0 < decimal.digits * Nat.pow 10 decimal.exponent.toNat :=
    Nat.mul_pos some (Nat.pow_pos (by decide))
  have denominator : 0 < Nat.pow 10 (-decimal.exponent).toNat := Nat.pow_pos (by decide)
  have value : ((decimal.digits * Nat.pow 10 decimal.exponent.toNat : Nat) : ℚ) /
      (Nat.pow 10 (-decimal.exponent).toNat : Nat) = decimal.value := by
    have places : (10 : ℚ) ^ (-decimal.exponent).toNat ≠ 0 := by positivity
    rw [decimal.numerator_eq, Nat.pow_eq, Nat.cast_pow, Nat.cast_ofNat,
      mul_div_cancel_right₀ _ places]
  have scaled (exponent : Int) {rounded : Nat}
      (rounds : RoundsTo (decimal.value / 2 ^ exponent) rounded) :
      roundedQuotient
          (decimal.digits * Nat.pow 10 decimal.exponent.toNat * Nat.pow 2 (-exponent).toNat)
          (Nat.pow 10 (-decimal.exponent).toNat * Nat.pow 2 exponent.toNat) = rounded := by
    have positive : 0 < Nat.pow 2 exponent.toNat := Nat.pow_pos (by decide)
    apply roundedQuotient_eq (Nat.mul_pos denominator positive)
    rwa [scaled_fraction, value]
  rcases binaryExponent_bounds numerator denominator with ⟨atLeast, below⟩
  rw [value] at atLeast below
  have pattern := format.pattern_eq bits
  have finitePattern := pattern_lt finite
  unfold nearest
  rw [if_neg some.ne']
  simp only
  rcases covers.exponent_cases fits atLeast below with own | ⟨next, nearer, under⟩
  · rw [own, scaled _ covers.roundsTo]
    simp only [Nat.pow_eq]
    rw [← pattern, Nat.min_eq_left finitePattern.le]
  · have half : (format.magnitude bits).step / 2 =
        2 ^ ((format.magnitude bits).exponent - 1) := by
      rw [zpow_sub_one₀ two_ne_zero, Magnitude.step, div_eq_mul_inv]
    have rounds := covers.roundsTo_below nearer under
    rw [half] at rounds
    rw [next, scaled _ rounds]
    -- The significand is a power of two, and twice the power carries.
    rcases fits.nearer nearer with ⟨power, normal⟩
    have carried : ((format.magnitude bits).exponent - format.leastExponent).toNat =
        ((format.magnitude bits).exponent - 1 - format.leastExponent).toNat + 1 := by omega
    have same : 2 * (format.magnitude bits).significand +
        ((format.magnitude bits).exponent - 1 - format.leastExponent).toNat *
          2 ^ format.fractionBits = format.pattern bits := by
      rw [pattern, carried, power]
      ring
    simp only [Nat.pow_eq]
    rw [same, Nat.min_eq_left finitePattern.le]

theorem isNarrow_double {bits : Nat} (positive : 0 < (double.magnitude bits).significand) :
    RoundingInterval.IsNarrow (double.magnitude bits) where
  positive := positive
  below := (double.fits_magnitude bits).below
  atPower nearer := ((double.fits_magnitude bits).nearer nearer).1.le

theorem pattern_of_zero {format : BinaryFormat} {bits : Nat}
    (zero : (format.magnitude bits).significand = 0) : format.pattern bits = 0 := by
  have fits := format.fits_magnitude bits
  have least : (format.magnitude bits).exponent = format.leastExponent := by
    rcases Int.lt_or_eq_of_le fits.least with normal | same
    · have digits := fits.normal normal
      rw [zero] at digits
      exact absurd digits (Nat.not_le.mpr (Nat.two_pow_pos _))
    · exact same.symm
  rw [pattern_eq, zero, least]
  simp

end BinaryFormat

end SelectBuilder
