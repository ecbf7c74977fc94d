import Reckoner.Number.Rounding
import Reckoner.Number.Shortest
import Mathlib.Algebra.Order.Field.Basic
import Mathlib.Algebra.Order.Field.Power
import Mathlib.Data.Rat.Cast.Order
import Mathlib.Tactic.FieldSimp
import Mathlib.Tactic.Linarith
import Mathlib.Tactic.NormNum
import Mathlib.Tactic.Ring

/-! # The reals that round to a double

Around every finite double lies an interval of numbers for which no other double is nearer. Rounding a
quotient from the interval gives that double, also at the boundary to a finer grid, where the interval
is narrower below than above. The decimals that are tried for a double are those of its interval.
-/

namespace Reckoner

/-- The number is nearer to `n` than to any other integer, or as near as to another one and `n` is even. -/
def NearestTo (n : Nat) (q : ℚ) : Prop :=
  ((n : ℚ) - 1 / 2 < q ∨ n % 2 = 0 ∧ (n : ℚ) - 1 / 2 = q) ∧
    (q < (n : ℚ) + 1 / 2 ∨ n % 2 = 0 ∧ q = (n : ℚ) + 1 / 2)

/-- Whether a remainder is less than half of the denominator can be told from twice the remainder. -/
theorem two_mul_lt_iff (remainder : Nat) {denominator : Nat} (positive : 0 < denominator) :
    2 * remainder < denominator ↔ (remainder : ℚ) / denominator < 1 / 2 := by
  have scale : (0 : ℚ) < denominator := Nat.cast_pos.mpr positive
  rw [div_lt_iff₀ scale, ← Nat.cast_lt (α := ℚ)]
  push_cast
  constructor <;> intro less <;> linarith

theorem two_mul_eq_iff (remainder : Nat) {denominator : Nat} (positive : 0 < denominator) :
    2 * remainder = denominator ↔ (remainder : ℚ) / denominator = 1 / 2 := by
  have scale : (0 : ℚ) < denominator := Nat.cast_pos.mpr positive
  rw [div_eq_iff scale.ne', ← Nat.cast_inj (R := ℚ)]
  push_cast
  constructor <;> intro same <;> linarith

theorem lt_two_mul_iff (remainder : Nat) {denominator : Nat} (positive : 0 < denominator) :
    denominator < 2 * remainder ↔ 1 / 2 < (remainder : ℚ) / denominator := by
  have scale : (0 : ℚ) < denominator := Nat.cast_pos.mpr positive
  rw [lt_div_iff₀ scale, ← Nat.cast_lt (α := ℚ)]
  push_cast
  constructor <;> intro less <;> linarith

/-- Rounding a quotient gives the integer that is nearest to it. -/
theorem roundedQuotient_eq {numerator denominator n : Nat} (positive : 0 < denominator)
    (nearest : NearestTo n (numerator / denominator)) :
    roundedQuotient numerator denominator = n := by
  obtain ⟨low, high⟩ := nearest
  have scale : (0 : ℚ) < denominator := Nat.cast_pos.mpr positive
  have parts : (numerator : ℚ) / denominator =
      (numerator / denominator : Nat) + (numerator % denominator : Nat) / (denominator : ℚ) := by
    rw [add_div' _ _ _ scale.ne', div_left_inj' scale.ne']
    exact_mod_cast (Nat.div_add_mod' numerator denominator).symm
  have less_half := two_mul_lt_iff (numerator % denominator) positive
  have one_half := two_mul_eq_iff (numerator % denominator) positive
  have more_half := lt_two_mul_iff (numerator % denominator) positive
  have least : (0 : ℚ) ≤ (numerator % denominator : Nat) / (denominator : ℚ) :=
    div_nonneg (Nat.cast_nonneg _) scale.le
  have most : ((numerator % denominator : Nat) : ℚ) / denominator < 1 := by
    rw [div_lt_one scale]
    exact_mod_cast Nat.mod_lt numerator positive
  rw [parts] at low high
  rw [roundedQuotient]
  generalize ((numerator % denominator : Nat) : ℚ) / denominator = rest at *
  generalize numerator / denominator = below at *
  have atMost : below ≤ n := by
    have bound : (below : ℚ) < n + 1 := by rcases high with high | ⟨_, high⟩ <;> linarith
    exact Nat.lt_succ_iff.mp (by exact_mod_cast bound)
  have atLeast : n ≤ below + 1 := by
    have bound : (n : ℚ) < below + 2 := by rcases low with low | ⟨_, low⟩ <;> linarith
    exact Nat.lt_succ_iff.mp (by exact_mod_cast bound)
  rcases Nat.lt_or_eq_of_le atMost with less | rfl
  · -- The quotient lies below `n`, in the half that is nearer to it.
    obtain rfl : n = below + 1 := Nat.le_antisymm atLeast less
    push_cast at low
    cases order : compare (2 * (numerator % denominator)) denominator with
    | lt =>
      have half := less_half.mp (Nat.compare_eq_lt.mp order)
      rcases low with low | ⟨_, low⟩ <;> linarith
    | eq =>
      have half := one_half.mp (Nat.compare_eq_eq.mp order)
      rcases low with low | ⟨even, _⟩
      · linarith
      · show below + below % 2 = below + 1
        omega
    | gt => rfl
  · cases order : compare (2 * (numerator % denominator)) denominator with
    | lt => rfl
    | eq =>
      have half := one_half.mp (Nat.compare_eq_eq.mp order)
      rcases high with high | ⟨even, _⟩
      · linarith
      · show below + below % 2 = below
        omega
    | gt =>
      have half := more_half.mp (Nat.compare_eq_gt.mp order)
      rcases high with high | ⟨_, high⟩ <;> linarith

/-- A power with an integer exponent as a quotient of powers with natural ones. -/
theorem zpow_eq_div {base : ℚ} (nonzero : base ≠ 0) (exponent : Int) :
    base ^ exponent = base ^ exponent.toNat / base ^ (-exponent).toNat := by
  rw [← zpow_natCast, ← zpow_natCast, ← zpow_sub₀ nonzero]
  congr 1
  omega

namespace Decimal

def value (decimal : Decimal) : ℚ := decimal.digits * (10 : ℚ) ^ decimal.exponent

/-- Scaled numbers are compared as the natural numbers that they are in a common unit. -/
theorem scaled_eq (left right : Nat) (ten two : Int) :
    ∃ unit : ℚ, 0 < unit ∧
      (left * Nat.pow 10 ten.toNat * Nat.pow 2 (-two).toNat : Nat) = left * (10 : ℚ) ^ ten * unit ∧
      (right * Nat.pow 2 two.toNat * Nat.pow 10 (-ten).toNat : Nat) = right * (2 : ℚ) ^ two * unit := by
  refine ⟨10 ^ (-ten).toNat * 2 ^ (-two).toNat, by positivity, ?_, ?_⟩
  · rw [zpow_eq_div (by norm_num) ten]
    simp only [Nat.pow_eq]
    push_cast
    field_simp
  · rw [zpow_eq_div (by norm_num) two]
    simp only [Nat.pow_eq]
    push_cast
    field_simp

/-- Scaled integers are in the order of the numbers that they stand for. -/
theorem orderScaled_eq_lt_iff {left right : Nat} {ten two : Int} :
    orderScaled left ten right two = .lt ↔ left * (10 : ℚ) ^ ten < right * (2 : ℚ) ^ two := by
  obtain ⟨unit, positive, sameLeft, sameRight⟩ := scaled_eq left right ten two
  rw [orderScaled, Nat.compare_eq_lt, ← Nat.cast_lt (α := ℚ), sameLeft, sameRight,
    mul_lt_mul_iff_left₀ positive]

theorem orderScaled_eq_eq_iff {left right : Nat} {ten two : Int} :
    orderScaled left ten right two = .eq ↔ left * (10 : ℚ) ^ ten = right * (2 : ℚ) ^ two := by
  obtain ⟨unit, positive, sameLeft, sameRight⟩ := scaled_eq left right ten two
  rw [orderScaled, Nat.compare_eq_eq, ← Nat.cast_inj (R := ℚ), sameLeft, sameRight,
    mul_left_inj' positive.ne']

theorem orderScaled_eq_gt_iff {left right : Nat} {ten two : Int} :
    orderScaled left ten right two = .gt ↔ right * (2 : ℚ) ^ two < left * (10 : ℚ) ^ ten := by
  obtain ⟨unit, positive, sameLeft, sameRight⟩ := scaled_eq left right ten two
  rw [orderScaled, Nat.compare_eq_gt, ← Nat.cast_lt (α := ℚ), sameLeft, sameRight,
    mul_lt_mul_iff_left₀ positive]

end Decimal

namespace Double

/-- The size of a finite double. -/
def size (x : Double) : ℚ := x.significand * (2 : ℚ) ^ x.exponent

/-- The lower end of the numbers that round to a finite double. -/
def lower (x : Double) : ℚ :=
  (4 * x.significand - (if x.narrowBelow then 1 else 2) : Nat) * (2 : ℚ) ^ (x.exponent - 2)

/-- The upper end of the numbers that round to a finite double. -/
def upper (x : Double) : ℚ := (4 * x.significand + 2 : Nat) * (2 : ℚ) ^ (x.exponent - 2)

/-- The number rounds to the size of a finite double; the ends of the interval do if the significand
is even. -/
def Encloses (x : Double) (q : ℚ) : Prop :=
  (x.lower < q ∨ x.significand % 2 = 0 ∧ x.lower = q) ∧
    (q < x.upper ∨ x.significand % 2 = 0 ∧ q = x.upper)

/-- The test on scaled integers decides which decimals round to a double. -/
theorem readsBack_iff {x : Double} {decimal : Decimal} :
    x.readsBack decimal = true ↔ x.Encloses decimal.value := by
  simp only [readsBack, Bool.and_eq_true, Bool.or_eq_true, beq_iff_eq, Decimal.orderScaled_eq_lt_iff,
    Decimal.orderScaled_eq_eq_iff, Decimal.orderScaled_eq_gt_iff]
  rw [Encloses, lower, upper, Decimal.value, eq_comm (a := ((4 * _ - _ : Nat) : ℚ) * _)]

/-- The logarithm of a natural number as a bound on both sides. -/
theorem log2_bounds {n : Nat} (nonzero : n ≠ 0) :
    (2 : ℚ) ^ (n.log2 : Int) ≤ n ∧ (n : ℚ) < 2 ^ ((n.log2 : Int) + 1) := by
  constructor
  · rw [zpow_natCast]
    exact_mod_cast Nat.log2_self_le nonzero
  · rw [← Nat.cast_succ, zpow_natCast]
    exact_mod_cast Nat.lt_log2_self

/-- The logarithm of a positive quotient lies between those of its neighbouring powers of two. -/
theorem quotientLog2_spec {numerator denominator : Nat} (nonzero : numerator ≠ 0)
    (nonzeroToo : denominator ≠ 0) :
    (2 : ℚ) ^ quotientLog2 numerator denominator ≤ numerator / denominator ∧
      (numerator : ℚ) / denominator < 2 ^ (quotientLog2 numerator denominator + 1) := by
  obtain ⟨above, below⟩ := log2_bounds nonzero
  obtain ⟨aboveToo, belowToo⟩ := log2_bounds nonzeroToo
  have scale : (0 : ℚ) < denominator := Nat.cast_pos.mpr (Nat.pos_of_ne_zero nonzeroToo)
  have two : (2 : ℚ) ≠ 0 := two_ne_zero
  have test (estimate : Int) :
      numerator * Nat.pow 2 (-estimate).toNat < denominator * Nat.pow 2 estimate.toNat ↔
        (numerator : ℚ) / denominator < 2 ^ estimate := by
    rw [zpow_eq_div two, div_lt_div_iff₀ scale (by positivity), ← Nat.cast_lt (α := ℚ)]
    simp only [Nat.pow_eq]
    push_cast
    rw [mul_comm (denominator : ℚ)]
  rw [quotientLog2]
  split
  · next less =>
    rw [test] at less
    refine ⟨?_, by rwa [sub_add_cancel]⟩
    rw [le_div_iff₀ scale, sub_sub]
    calc (2 : ℚ) ^ ((numerator.log2 : Int) - (denominator.log2 + 1)) * denominator
        ≤ 2 ^ ((numerator.log2 : Int) - (denominator.log2 + 1)) * 2 ^ ((denominator.log2 : Int) + 1) := by
          gcongr
      _ = 2 ^ (numerator.log2 : Int) := by rw [← zpow_add₀ two, sub_add_cancel]
      _ ≤ numerator := above
  · next more =>
    rw [test] at more
    refine ⟨not_lt.mp more, ?_⟩
    rw [div_lt_iff₀ scale]
    calc (numerator : ℚ) < 2 ^ ((numerator.log2 : Int) + 1) := below
      _ = 2 ^ ((numerator.log2 : Int) - denominator.log2 + 1) * 2 ^ (denominator.log2 : Int) := by
          rw [← zpow_add₀ two]
          congr 1
          ring
      _ ≤ 2 ^ ((numerator.log2 : Int) - denominator.log2 + 1) * denominator := by gcongr

/-- The bits of a finite double without its sign, by significand and exponent. -/
theorem magnitude_eq {x : Double} : x.magnitude = (x.exponent + 1074).toNat * exponentUnit + x.significand := by
  rw [exponent, significand, exponentUnit]
  split <;> omega

theorem exponent_ge (x : Double) : -1074 ≤ x.exponent := by
  rw [exponent, exponentUnit]
  split <;> omega

theorem significand_lt (x : Double) : x.significand < 2 ^ 53 := by
  rw [significand, exponentUnit]
  split <;> omega

/-- Doubles above the least grid have all digits of their significand. -/
theorem le_significand {x : Double} (normal : -1074 < x.exponent) : 2 ^ 52 ≤ x.significand := by
  rw [exponent, exponentUnit] at normal
  rw [significand, exponentUnit]
  split at normal
  · omega
  · next large =>
    rw [if_neg large]
    omega

/-- A quarter of the distance between neighbouring doubles, in which the ends of the interval are
whole numbers. -/
def quarter (x : Double) : ℚ := 2 ^ (x.exponent - 2)

theorem quarter_pos (x : Double) : 0 < x.quarter := zpow_pos two_pos _

/-- The powers of two at a double's exponent, counted in quarters of its last place. -/
theorem zpow_exponent_add (x : Double) (more : Nat) :
    (2 : ℚ) ^ (x.exponent - 2 + more) = 2 ^ more * x.quarter := by
  rw [zpow_add₀ two_ne_zero, zpow_natCast, mul_comm, quarter]

section Interval

variable {x : Double} {q : ℚ} (positive : 0 < x.significand) (encloses : x.Encloses q)

include positive

/-- The lower end lies half a place below a double, or a quarter of one where the neighbour below is near. -/
theorem lower_eq : x.lower = (4 * x.significand - if x.narrowBelow then 1 else 2) * x.quarter := by
  rw [lower, quarter, Nat.cast_sub]
  · split <;> push_cast <;> rfl
  · split <;> omega

omit positive in
/-- The upper end lies half a place above a double. -/
theorem upper_eq : x.upper = (4 * x.significand + 2) * x.quarter := by
  rw [upper, quarter]
  push_cast
  rfl

include encloses

/-- The enclosed numbers are positive. -/
theorem Encloses.pos : 0 < q := by
  have low : x.lower ≤ q := by
    rcases encloses.1 with low | ⟨_, low⟩
    · exact low.le
    · exact low.le
  refine lt_of_lt_of_le ?_ low
  rw [lower_eq positive]
  refine mul_pos ?_ x.quarter_pos
  have least : (1 : ℚ) ≤ x.significand := by exact_mod_cast positive
  split <;> linarith

/-- Counted on the grid of the double, the enclosed numbers are nearest to the significand. -/
theorem Encloses.nearestTo : NearestTo x.significand (q / 2 ^ x.exponent) := by
  have unit := x.quarter_pos
  have scale : (2 : ℚ) ^ x.exponent = 4 * x.quarter := by
    rw [← (by norm_num : (2 : ℚ) ^ 2 = 4), ← zpow_exponent_add x 2]
    congr 1
    push_cast
    ring
  obtain ⟨low, high⟩ := encloses
  rw [lower_eq positive] at low
  rw [upper_eq] at high
  rw [NearestTo, scale, lt_div_iff₀ (by positivity), div_lt_iff₀ (by positivity),
    eq_div_iff (by positivity), div_eq_iff (by positivity)]
  refine ⟨?_, ?_⟩
  · split at low
    · left
      rcases low with low | ⟨_, low⟩ <;> nlinarith
    · refine low.imp (fun low => ?_) (And.imp_right fun low => ?_) <;> linarith
  · refine high.imp (fun high => ?_) (And.imp_right fun high => ?_) <;> linarith

theorem Encloses.lower_le : (4 * x.significand - 2) * x.quarter ≤ q := by
  have unit := x.quarter_pos
  obtain ⟨low, _⟩ := encloses
  rw [lower_eq positive] at low
  split at low <;> rcases low with low | ⟨_, low⟩ <;> linarith

omit positive in
/-- A number that rounds to a double lies below the power of two that bounds its significand. -/
theorem Encloses.lt_top : q < 2 ^ (x.exponent + 53) := by
  have unit := x.quarter_pos
  have most : (x.significand : ℚ) + 1 ≤ 2 ^ 53 := by exact_mod_cast x.significand_lt
  have scale : (2 : ℚ) ^ (x.exponent + 53) = 2 ^ 55 * x.quarter := by
    rw [← zpow_exponent_add]
    congr 1
    push_cast
    ring
  obtain ⟨_, high⟩ := encloses
  rw [upper_eq] at high
  rw [scale]
  rcases high with high | ⟨_, high⟩ <;> nlinarith

/-- An enclosed number below the grid of the double is on the grid of the next smaller numbers, since
the double is the least one of its own grid. -/
theorem Encloses.of_lt (normal : -1074 < x.exponent) (less : q < 2 ^ (x.exponent + 52)) :
    2 ^ (x.exponent + 51) ≤ q ∧ x.significand = exponentUnit ∧
      NearestTo (2 * x.significand) (q / 2 ^ (x.exponent - 1)) := by
  have unit := x.quarter_pos
  have scale (more : Nat) (place : Int) (same : place = x.exponent - 2 + more) :
      (2 : ℚ) ^ place = 2 ^ more * x.quarter := by rw [← zpow_exponent_add, same]
  rw [scale 54 _ (by push_cast; ring)] at less
  have low := encloses.lower_le positive
  have atLeast : (2 : ℚ) ^ 52 ≤ x.significand := by exact_mod_cast le_significand normal
  have least : x.significand = 2 ^ 52 := by
    have below : (4 * (x.significand : ℚ) - 2) < 2 ^ 54 := by
      by_contra above
      nlinarith
    have atMost : (x.significand : ℚ) < 2 ^ 52 + 1 := by linarith
    have atMost : x.significand < 2 ^ 52 + 1 := by exact_mod_cast atMost
    exact Nat.le_antisymm (Nat.lt_succ_iff.mp atMost) (le_significand normal)
  have narrow : x.narrowBelow = true := by
    rw [exponent, exponentUnit] at normal
    rw [significand, exponentUnit] at least
    rw [narrowBelow, exponentUnit, Bool.and_eq_true, beq_iff_eq, decide_eq_true_eq]
    split at normal
    · omega
    · next large =>
      rw [if_neg large] at least
      omega
  obtain ⟨ends, _⟩ := encloses
  have same : (x.significand : ℚ) = 2 ^ 52 := by exact_mod_cast least
  rw [lower_eq positive, if_pos narrow, same] at ends
  have bound : (4 * 2 ^ 52 - 1) * x.quarter ≤ q := by
    rcases ends with low | ⟨_, low⟩
    · exact low.le
    · exact low.le
  refine ⟨by rw [scale 53 _ (by push_cast; ring)]; linarith, least, ?_⟩
  rw [NearestTo, scale 1 _ (by push_cast; ring), lt_div_iff₀ (by positivity), div_lt_iff₀ (by positivity),
    eq_div_iff (by positivity), div_eq_iff (by positivity)]
  push_cast
  rw [same]
  refine ⟨?_, .inl (by linarith)⟩
  rcases lt_or_eq_of_le bound with bound | bound
  · exact .inl (by linarith)
  · exact .inr ⟨Nat.mul_mod_right 2 _, by linarith⟩

/-- Around an enclosed number lies the grid of the double, or that of the next smaller numbers. -/
theorem Encloses.gridExponent_eq {numerator denominator : Nat} (nonzero : numerator ≠ 0)
    (nonzeroToo : denominator ≠ 0) (quotient : q = numerator / denominator) :
    gridExponent numerator denominator = x.exponent ∨
      gridExponent numerator denominator = x.exponent - 1 ∧ -1074 < x.exponent ∧
        x.significand = exponentUnit ∧ NearestTo (2 * x.significand) (q / 2 ^ (x.exponent - 1)) := by
  obtain ⟨atLeast, below⟩ := quotientLog2_spec nonzero nonzeroToo
  rw [← quotient] at atLeast below
  have compare {left right : Int} : (2 : ℚ) ^ left < 2 ^ right ↔ left < right :=
    zpow_lt_zpow_iff_right₀ one_lt_two
  have top := compare.mp (lt_of_le_of_lt atLeast encloses.lt_top)
  have bottom := x.exponent_ge
  rw [gridExponent]
  generalize quotientLog2 numerator denominator = log at *
  rcases eq_or_lt_of_le bottom with least | normal
  · exact .inl (by omega)
  rcases le_or_gt (2 ^ (x.exponent + 52)) q with regular | less
  · have low := compare.mp (lt_of_le_of_lt regular below)
    exact .inl (by omega)
  · obtain ⟨regular, last⟩ := encloses.of_lt positive normal less
    have low := compare.mp (lt_of_le_of_lt regular below)
    have high := compare.mp (lt_of_le_of_lt atLeast less)
    exact .inr ⟨by omega, normal, last⟩

end Interval

/-- A number that a double encloses is rounded to that double. -/
theorem nearest_eq {x : Double} {numerator denominator : Nat} (finite : x.isFinite = true)
    (unsigned : x.isNegative = false) (positive : 0 < x.significand) (nonzero : denominator ≠ 0)
    (encloses : x.Encloses (numerator / denominator)) : nearest numerator denominator = x := by
  have nonzeroToo : numerator ≠ 0 := by
    rintro rfl
    exact absurd (encloses.pos positive) (by simp)
  have count {n : Nat} (grid : Int) (near : NearestTo n (numerator / denominator / 2 ^ grid)) :
      roundedQuotient (numerator * Nat.pow 2 (-grid).toNat) (denominator * Nat.pow 2 grid.toNat) = n := by
    refine roundedQuotient_eq (Nat.mul_pos (Nat.pos_of_ne_zero nonzero) (Nat.pow_pos two_pos)) ?_
    rw [zpow_eq_div two_ne_zero, div_div_div_eq] at near
    simp only [Nat.pow_eq]
    push_cast
    exact near
  have unchanged : (⟨UInt64.ofNat (min infinityMagnitude x.magnitude)⟩ : Double) = x := by
    have small : x.magnitude < infinityMagnitude := of_decide_eq_true finite
    have same : x.bits.toNat = x.magnitude := by
      rw [isNegative, decide_eq_false_iff_not] at unsigned
      exact (Nat.mod_eq_of_lt (not_le.mp unsigned)).symm
    rw [min_eq_right small.le, ← same, UInt64.ofNat_toNat]
  rw [nearest, if_neg nonzeroToo]
  dsimp only
  rcases encloses.gridExponent_eq positive nonzeroToo nonzero rfl with grid | ⟨grid, normal, full, near⟩
  · rw [grid, count _ (encloses.nearestTo positive), ← magnitude_eq, unchanged]
  · -- The count is the number of units up to the end of the finer grid.
    have carried : (x.exponent - 1 + 1074).toNat * exponentUnit + 2 * x.significand = x.magnitude := by
      rw [magnitude_eq, full, exponentUnit]
      omega
    rw [grid, count _ near, carried, unchanged]

end Double

end Reckoner
