import Mathlib.Algebra.Order.Field.Power
import Mathlib.Data.Nat.Cast.Order.Field
import Mathlib.Data.Rat.Cast.Order
import Mathlib.Tactic.Linarith
import Mathlib.Tactic.Positivity
import Mathlib.Tactic.Ring
import SelectBuilder.Number.Shortest

namespace SelectBuilder

/-!
# The shortest decimal is in the rounding interval

A number is written as a decimal that is not the number itself.  It still says which
number is meant, because it lies among the rationals that round to it.  Grids of
decimals are tried until one has a point there, and the seventeenth grid always has:
its points are nearer to each other than the ends of the interval are.
-/

/-! ## Decimals and binary numbers as rationals -/

/-- Powers with exponents cut off at zero, on either side of a fraction. -/
theorem pow_toNat {base : ℚ} (nonzero : base ≠ 0) (exponent : Int) :
    base ^ exponent.toNat = base ^ exponent * base ^ (-exponent).toNat := by
  rcases Int.le_total 0 exponent with positive | negative
  · rw [Int.toNat_of_nonpos (by omega : -exponent ≤ 0), pow_zero, mul_one, ← zpow_natCast,
      Int.toNat_of_nonneg positive]
  · rw [Int.toNat_of_nonpos negative, pow_zero, ← zpow_natCast base (-exponent).toNat,
      Int.toNat_of_nonneg (by omega), ← zpow_add₀ nonzero, add_neg_cancel, zpow_zero]

def Decimal.value (decimal : Decimal) : ℚ :=
  decimal.digits * (10 : ℚ) ^ decimal.exponent

/-- A decimal as a fraction of two natural numbers. -/
theorem Decimal.numerator_eq (decimal : Decimal) :
    ((decimal.digits * Nat.pow 10 decimal.exponent.toNat : Nat) : ℚ) =
      decimal.value * 10 ^ (-decimal.exponent).toNat := by
  have powers := pow_toNat (show (10 : ℚ) ≠ 0 by norm_num) decimal.exponent
  simp only [Nat.pow_eq]
  push_cast
  rw [powers, value]
  ring

namespace Magnitude

/-- The distance to the number above. -/
def step (magnitude : Magnitude) : ℚ :=
  (2 : ℚ) ^ magnitude.exponent

def value (magnitude : Magnitude) : ℚ :=
  magnitude.significand * magnitude.step

/-- Halfway to the number below, which may be nearer than the one above. -/
def low (magnitude : Magnitude) : ℚ :=
  (magnitude.significand - if magnitude.nearerBelow then 1 / 4 else 1 / 2) * magnitude.step

/-- Halfway to the number above. -/
def high (magnitude : Magnitude) : ℚ :=
  (magnitude.significand + 1 / 2) * magnitude.step

/-- The rationals that round to the number: those nearer to it than to any other one,
and those halfway to a neighbour if its significand is even. -/
def Covers (magnitude : Magnitude) (number : ℚ) : Prop :=
  if magnitude.significand % 2 = 0 then magnitude.low ≤ number ∧ number ≤ magnitude.high
  else magnitude.low < number ∧ number < magnitude.high

variable {magnitude : Magnitude}

theorem step_pos (magnitude : Magnitude) : 0 < magnitude.step :=
  zpow_pos (by norm_num) _

theorem Covers.of_between {number : ℚ} (above : magnitude.low < number)
    (below : number < magnitude.high) : magnitude.Covers number := by
  unfold Covers
  split
  · exact ⟨above.le, below.le⟩
  · exact ⟨above, below⟩

theorem Covers.bounds {number : ℚ} (covers : magnitude.Covers number) :
    magnitude.low ≤ number ∧ number ≤ magnitude.high := by
  unfold Covers at covers
  split at covers
  · exact covers
  · exact ⟨covers.1.le, covers.2.le⟩

end Magnitude

/-! ## What the interval contains -/

namespace RoundingInterval

variable {magnitude : Magnitude}

theorem scale_pos (magnitude : Magnitude) : (0 : ℚ) < (ofMagnitude magnitude).scale := by
  simp only [ofMagnitude, Nat.pow_eq, Nat.cast_pow]
  positivity

/-- So many quarters of a step, over the scale of the interval. -/
theorem quarters_eq (magnitude : Magnitude) (quarters : Nat) :
    ((quarters * Nat.pow 2 (magnitude.exponent - 2).toNat : Nat) : ℚ) =
      quarters / 4 * magnitude.step * (ofMagnitude magnitude).scale := by
  have powers := pow_toNat (show (2 : ℚ) ≠ 0 by norm_num) (magnitude.exponent - 2)
  have quarter : (2 : ℚ) ^ (magnitude.exponent - 2) = magnitude.step / 4 := by
    rw [zpow_sub₀ (by norm_num), Magnitude.step]
    norm_num
  rw [quarter, neg_sub] at powers
  simp only [ofMagnitude, Nat.pow_eq]
  push_cast
  rw [powers]
  ring

theorem middle_eq (magnitude : Magnitude) :
    ((ofMagnitude magnitude).middle : ℚ) = magnitude.value * (ofMagnitude magnitude).scale := by
  have quarters := quarters_eq magnitude (4 * magnitude.significand)
  have whole : ((4 * magnitude.significand : Nat) : ℚ) / 4 = magnitude.significand := by
    push_cast
    ring
  rwa [whole] at quarters

theorem high_eq (magnitude : Magnitude) :
    ((ofMagnitude magnitude).high : ℚ) = magnitude.high * (ofMagnitude magnitude).scale := by
  have quarters := quarters_eq magnitude (4 * magnitude.significand + 2)
  have half : ((4 * magnitude.significand + 2 : Nat) : ℚ) / 4 = magnitude.significand + 1 / 2 := by
    push_cast
    ring
  rwa [half] at quarters

theorem low_eq (positive : 0 < magnitude.significand) :
    ((ofMagnitude magnitude).low : ℚ) = magnitude.low * (ofMagnitude magnitude).scale := by
  have room : (if magnitude.nearerBelow then 1 else 2) ≤ 4 * magnitude.significand := by
    split <;> omega
  have quarters := quarters_eq magnitude
    (4 * magnitude.significand - if magnitude.nearerBelow then 1 else 2)
  have part : ((4 * magnitude.significand - if magnitude.nearerBelow then 1 else 2 : Nat) : ℚ) / 4 =
      magnitude.significand - if magnitude.nearerBelow then 1 / 4 else 1 / 2 := by
    rw [Nat.cast_sub room]
    push_cast
    split <;> ring
  rw [part] at quarters
  rw [Magnitude.low, ← quarters, ofMagnitude]
  split <;> rfl

/-- The interval contains the decimals that round to the number. -/
theorem contains_iff (positive : 0 < magnitude.significand) (decimal : Decimal) :
    (ofMagnitude magnitude).contains decimal = true ↔ magnitude.Covers decimal.value := by
  -- All three sides of the comparison are over the same denominator.
  have denominator : (0 : ℚ) < (ofMagnitude magnitude).scale * 10 ^ (-decimal.exponent).toNat :=
    mul_pos (scale_pos magnitude) (by positivity)
  have point : ((decimal.digits * Nat.pow 10 decimal.exponent.toNat *
      (ofMagnitude magnitude).scale : Nat) : ℚ) =
        decimal.value * ((ofMagnitude magnitude).scale * 10 ^ (-decimal.exponent).toNat) := by
    rw [Nat.cast_mul, decimal.numerator_eq]
    ring
  have low : (((ofMagnitude magnitude).low * Nat.pow 10 (-decimal.exponent).toNat : Nat) : ℚ) =
      magnitude.low * ((ofMagnitude magnitude).scale * 10 ^ (-decimal.exponent).toNat) := by
    simp only [Nat.pow_eq]
    push_cast
    rw [low_eq positive]
    ring
  have high : (((ofMagnitude magnitude).high * Nat.pow 10 (-decimal.exponent).toNat : Nat) : ℚ) =
      magnitude.high * ((ofMagnitude magnitude).scale * 10 ^ (-decimal.exponent).toNat) := by
    simp only [Nat.pow_eq]
    push_cast
    rw [high_eq]
    ring
  have closed : (ofMagnitude magnitude).closed = decide (magnitude.significand % 2 = 0) := rfl
  simp only [contains, Magnitude.Covers, closed, decide_eq_true_eq]
  split
  · rw [Bool.and_eq_true, decide_eq_true_eq, decide_eq_true_eq, ← Nat.cast_le (α := ℚ),
      ← Nat.cast_le (α := ℚ), point, low, high, mul_le_mul_iff_left₀ denominator,
      mul_le_mul_iff_left₀ denominator]
  · rw [Bool.and_eq_true, decide_eq_true_eq, decide_eq_true_eq, ← Nat.cast_lt (α := ℚ),
      ← Nat.cast_lt (α := ℚ), point, low, high, mul_lt_mul_iff_left₀ denominator,
      mul_lt_mul_iff_left₀ denominator]

/-! ## Grids with a point in the interval -/

/-- The point that is tried below is the last one that is not above the number. -/
theorem floorDigits_bounds (magnitude : Magnitude) (exponent : Int) :
    ((ofMagnitude magnitude).floorDigits exponent : ℚ) * 10 ^ exponent ≤ magnitude.value ∧
      magnitude.value < ((ofMagnitude magnitude).floorDigits exponent + 1) * 10 ^ exponent := by
  have scale := scale_pos magnitude
  have places : (0 : ℚ) < 10 ^ (-exponent).toNat := by positivity
  have powers := pow_toNat (show (10 : ℚ) ≠ 0 by norm_num) exponent
  have grid : 0 < (ofMagnitude magnitude).scale * Nat.pow 10 exponent.toNat := by
    have scale : 0 < (ofMagnitude magnitude).scale := by exact_mod_cast scale
    exact Nat.mul_pos scale (Nat.pow_pos (by decide))
  have floor := Nat.div_mul_le_self
    ((ofMagnitude magnitude).middle * Nat.pow 10 (-exponent).toNat)
    ((ofMagnitude magnitude).scale * Nat.pow 10 exponent.toNat)
  have above := Nat.lt_mul_div_succ
    ((ofMagnitude magnitude).middle * Nat.pow 10 (-exponent).toNat) grid
  rw [← floorDigits, ← Nat.cast_le (α := ℚ)] at floor
  rw [← floorDigits, ← Nat.cast_lt (α := ℚ)] at above
  simp only [Nat.pow_eq] at floor above
  push_cast at floor above
  rw [middle_eq, powers] at floor above
  have denominator := mul_pos scale places
  constructor
  · apply le_of_mul_le_mul_right _ denominator
    linarith
  · apply lt_of_mul_lt_mul_right _ denominator.le
    linarith

/-- What holds of the significands of both formats.  Only powers of two may be nearer to
the number below. -/
structure IsNarrow (magnitude : Magnitude) : Prop where
  positive : 0 < magnitude.significand
  below : magnitude.significand < 2 ^ 53
  atPower : magnitude.nearerBelow = true -> magnitude.significand ≤ 2 ^ 52

/-- On a grid with seventeen digits a neighbour of the number is in its interval. -/
theorem covers_neighbour (narrow : IsNarrow magnitude) {exponent : Int}
    (fine : (10 : ℚ) ^ exponent * 10 ^ 16 ≤ magnitude.value) :
    magnitude.Covers (Decimal.value ⟨(ofMagnitude magnitude).floorDigits exponent, exponent⟩) ∨
      magnitude.Covers
        (Decimal.value ⟨(ofMagnitude magnitude).floorDigits exponent + 1, exponent⟩) := by
  rcases floorDigits_bounds magnitude exponent with ⟨floor, above⟩
  have step := magnitude.step_pos
  simp only [Decimal.value]
  push_cast
  rw [Magnitude.value] at fine floor above
  have below : magnitude.low < magnitude.significand * magnitude.step := by
    rw [Magnitude.low]
    split <;> nlinarith
  have high : magnitude.high = magnitude.significand * magnitude.step + magnitude.step / 2 := by
    rw [Magnitude.high]
    ring
  have significand : (magnitude.significand : ℚ) ≤ 2 ^ 53 := by exact_mod_cast narrow.below.le
  cases nearer : magnitude.nearerBelow with
  | true =>
      -- The points are nearer to each other than the upper end is to the number.
      have atPower : (magnitude.significand : ℚ) ≤ 2 ^ 52 := by
        exact_mod_cast narrow.atPower nearer
      have apart : (10 : ℚ) ^ exponent < magnitude.step / 2 := by nlinarith
      exact .inr (.of_between (by linarith) (by linarith))
  | false =>
      have low : magnitude.low = magnitude.significand * magnitude.step - magnitude.step / 2 := by
        rw [Magnitude.low, nearer, if_neg Bool.false_ne_true]
        ring
      have apart : (10 : ℚ) ^ exponent < magnitude.step := by nlinarith
      by_cases near : magnitude.low <
          (ofMagnitude magnitude).floorDigits exponent * 10 ^ exponent
      · exact .inl (.of_between near (by linarith))
      · exact .inr (.of_between (by linarith) (by linarith))

theorem isSome_onGrid? (narrow : IsNarrow magnitude) (tie : Decimal.Tie) {exponent : Int}
    (fine : (10 : ℚ) ^ exponent * 10 ^ 16 ≤ magnitude.value) :
    ((ofMagnitude magnitude).onGrid? tie exponent).isSome = true := by
  unfold onGrid?
  rw [List.find?_isSome]
  rcases covers_neighbour narrow fine with below | above
  · refine ⟨_, ?_, (contains_iff narrow.positive _).mpr below⟩
    split <;> simp
  · refine ⟨_, ?_, (contains_iff narrow.positive _).mpr above⟩
    split <;> simp

/-- The search ends on a grid that has a point in the interval, if there is one among
those that it tries. -/
theorem contains_search {interval : RoundingInterval} {tie : Decimal.Tie} {grids : Nat}
    {exponent : Int} {further : Nat} (among : further < grids)
    (found : (interval.onGrid? tie (exponent - further)).isSome = true) :
    interval.contains (interval.search tie grids exponent) = true := by
  induction grids generalizing exponent further with
  | zero => exact absurd among (Nat.not_lt_zero further)
  | succ grids ih =>
      unfold search
      cases onGrid : interval.onGrid? tie exponent with
      | some decimal => exact List.find?_some onGrid
      | none =>
          cases further with
          | zero =>
              rw [Int.natCast_zero, Int.sub_zero, onGrid] at found
              cases found
          | succ less =>
              apply ih (Nat.lt_of_succ_lt_succ among)
              have same : exponent - 1 - less = exponent - (less + 1 : Nat) := by
                push_cast
                ring
              rwa [same]

end RoundingInterval

/-! ## The leading digit -/

theorem lt_pow_digitCount (number : Nat) : number < 10 ^ digitCount number :=
  (Nat.length_toDigits_le_iff (by decide) Nat.length_toDigits_pos).mp (Nat.le_refl _)

theorem pow_digitCount_le {number : Nat} (positive : 0 < number) :
    10 ^ (digitCount number - 1) ≤ number := by
  by_cases single : digitCount number ≤ 1
  · rw [Nat.sub_eq_zero_of_le single, pow_zero]
    exact positive
  · have fewer := Nat.length_toDigits_le_iff (b := 10) (n := number)
      (k := digitCount number - 1) (by decide) (by omega)
    by_contra less
    have short := fewer.mpr (Nat.not_le.mp less)
    rw [← digitCount] at short
    omega

namespace RoundingInterval

variable {magnitude : Magnitude}

theorem pow_leadingExponent_le {interval : RoundingInterval} (scale : 0 < interval.scale)
    (middle : 0 < interval.middle) :
    (10 : ℚ) ^ interval.leadingExponent ≤ interval.middle / interval.scale := by
  unfold leadingExponent
  split
  · next whole =>
      have digits := pow_digitCount_le (Nat.div_pos whole scale)
      have some : 0 < digitCount (interval.middle / interval.scale) := Nat.length_toDigits_pos
      have exponent : (digitCount (interval.middle / interval.scale) : Int) - 1 =
          (digitCount (interval.middle / interval.scale) - 1 : Nat) := by omega
      rw [exponent, zpow_natCast]
      calc (10 : ℚ) ^ (digitCount (interval.middle / interval.scale) - 1)
          ≤ (interval.middle / interval.scale : Nat) := by exact_mod_cast digits
        _ ≤ interval.middle / interval.scale := Nat.cast_div_le
  · have digits := lt_pow_digitCount ((interval.scale - 1) / interval.middle)
    rw [Nat.div_lt_iff_lt_mul middle] at digits
    have reaches : interval.scale ≤
        10 ^ digitCount ((interval.scale - 1) / interval.middle) * interval.middle := by omega
    have denominator : (0 : ℚ) < interval.scale := by exact_mod_cast scale
    rw [zpow_neg, zpow_natCast, inv_le_iff_one_le_mul₀ (by positivity), div_mul_eq_mul_div,
      le_div_iff₀ denominator, one_mul, mul_comm]
    exact_mod_cast reaches

/-- Of the seventeen grids that are tried the last one is fine enough. -/
theorem covers_search (narrow : IsNarrow magnitude) (tie : Decimal.Tie) :
    magnitude.Covers
      ((ofMagnitude magnitude).search tie 17 (ofMagnitude magnitude).leadingExponent).value := by
  have scale := scale_pos magnitude
  have step := magnitude.step_pos
  have positive : (0 : ℚ) < magnitude.significand := by exact_mod_cast narrow.positive
  have value : magnitude.value =
      (ofMagnitude magnitude).middle / (ofMagnitude magnitude).scale := by
    rw [middle_eq, mul_div_cancel_right₀ _ scale.ne']
  have middle : (0 : ℚ) < (ofMagnitude magnitude).middle := by
    rw [middle_eq, Magnitude.value]
    positivity
  have leading := pow_leadingExponent_le (by exact_mod_cast scale) (by exact_mod_cast middle)
  rw [← value] at leading
  have fine : (10 : ℚ) ^ ((ofMagnitude magnitude).leadingExponent - (16 : Nat)) * 10 ^ 16 ≤
      magnitude.value := by
    rw [zpow_sub₀ (by norm_num), zpow_natCast, div_mul_cancel₀ _ (by norm_num)]
    exact leading
  have found := contains_search (show 16 < 17 by decide) (isSome_onGrid? narrow tie fine)
  exact (contains_iff narrow.positive _).mp found

end RoundingInterval

/-! ## The shortest decimal -/

theorem Decimal.value_dropZeros (places : Nat) (decimal : Decimal) :
    (dropZeros places decimal).value = decimal.value := by
  induction places generalizing decimal with
  | zero => rfl
  | succ places ih =>
      unfold dropZeros
      split
      · next tens =>
          rw [ih]
          have digits : (decimal.digits : ℚ) = (decimal.digits / 10 : Nat) * 10 := by
            exact_mod_cast (Nat.div_mul_cancel (Nat.dvd_of_mod_eq_zero tens)).symm
          rw [value, value, digits, zpow_add_one₀ (by norm_num)]
          ring
      · rfl

/-- The shortest decimal rounds to the number that it is written for. -/
theorem Magnitude.covers_shortest {magnitude : Magnitude}
    (narrow : RoundingInterval.IsNarrow magnitude) (tie : Decimal.Tie) :
    magnitude.Covers (magnitude.shortest tie).value := by
  rw [shortest, if_neg narrow.positive.ne', Decimal.reduce, Decimal.value_dropZeros]
  exact RoundingInterval.covers_search narrow tie

end SelectBuilder
