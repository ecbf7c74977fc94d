import Reckoner.Dialect.Literal
import Reckoner.Proofs.Number.Digits
import Reckoner.Proofs.Number.Nearest

/-! # Doubles read back

The decimal that is selected for a double lies in the interval of the double, and its digits on both
sides of a point read as that decimal. So every double that is a number reads back from its text, also
where the text is longer than the selection because the decimal is large or small.
-/

namespace Reckoner

namespace Decimal

/-- Trailing zeros do not count in a decimal. -/
theorem value_stripWithin (steps : Nat) (decimal : Decimal) :
    (stripWithin steps decimal).value = decimal.value := by
  induction steps generalizing decimal with
  | zero => rfl
  | succ steps ih =>
    rw [stripWithin]
    split
    · next round =>
      have whole : ((decimal.digits / 10 : Nat) : ℚ) * 10 = decimal.digits := by
        exact_mod_cast Nat.div_mul_cancel (Nat.dvd_of_mod_eq_zero round.1)
      rw [ih, value, value, zpow_add_one₀ (by norm_num), mul_comm ((10 : ℚ) ^ _), ← mul_assoc, whole]
    · rfl

end Decimal

namespace Double

/-- The exact decimal of a double stands for its size. -/
theorem value_exactDecimal (x : Double) : x.exactDecimal.value = x.size := by
  have ten : (10 : ℚ) = 5 * 2 := by norm_num
  rw [exactDecimal, size, zpow_eq_div two_ne_zero]
  split
  · next whole =>
    rw [show (-x.exponent).toNat = 0 by omega, Decimal.value]
    simp
  · next part =>
    rw [show x.exponent.toNat = 0 by omega, Decimal.value, zpow_eq_div (by norm_num),
      show x.exponent.toNat = 0 by omega, ten,
      mul_pow _ _ (-x.exponent).toNat]
    simp only [Nat.pow_eq]
    push_cast
    rw [pow_zero, pow_zero]
    field_simp

/-- What is selected on a grid reads back. -/
theorem readsBack_of_onGrid? {x : Double} {tie : Tie} {exponent : Int} {decimal : Decimal}
    (found : x.onGrid? tie exponent = some decimal) : x.readsBack decimal = true := by
  cases below : x.readsBack ⟨x.floorOnGrid exponent, exponent⟩ with
  | false =>
    cases above : x.readsBack ⟨x.floorOnGrid exponent + 1, exponent⟩ with
    | false => simp only [onGrid?, below, above, reduceCtorEq] at found
    | true =>
      simp only [onGrid?, below, above, Option.some.injEq] at found
      exact found ▸ above
  | true =>
    cases above : x.readsBack ⟨x.floorOnGrid exponent + 1, exponent⟩ with
    | false =>
      simp only [onGrid?, below, above, Option.some.injEq] at found
      exact found ▸ below
    | true =>
      have either : decimal = ⟨x.floorOnGrid exponent, exponent⟩ ∨
          decimal = ⟨x.floorOnGrid exponent + 1, exponent⟩ := by
        simp only [onGrid?, below, above] at found
        split at found
        · exact .inl (Option.some.inj found).symm
        · exact .inr (Option.some.inj found).symm
        · exact .inr (Option.some.inj found).symm
        · split at found
          · exact .inl (Option.some.inj found).symm
          · exact .inr (Option.some.inj found).symm
      rcases either with rfl | rfl <;> assumption

/-! A decimal with digits lies between two powers of ten, and a double between two powers of two. -/

/-- All doubles and their neighbours lie between these powers of ten. -/
theorem two_zpow_lt_ten_zpow : (2 : ℚ) ^ (1088 : Int) < 10 ^ (400 : Int) := by
  have powers : (2 : ℚ) ^ (68 * 16) < 10 ^ (25 * 16) := by
    rw [pow_mul, pow_mul]
    exact pow_lt_pow_left₀ (by norm_num) (by norm_num) (by decide)
  exact powers

/-- A decimal lies below the power of ten that its digits and its exponent reach. -/
theorem lt_ten_zpow_length (digits : Nat) (exponent : Int) :
    (digits : ℚ) * 10 ^ exponent < 10 ^ ((Numeral.ofNat 10 digits).length + exponent : Int) := by
  obtain ⟨below, _⟩ := Numeral.ofNat_bounds digits
  rw [zpow_add₀ (by norm_num), zpow_natCast]
  gcongr
  exact_mod_cast below

/-- A decimal other than zero reaches the power of ten that its leading digit stands for. -/
theorem ten_zpow_length_le {digits : Nat} (some : digits ≠ 0) (exponent : Int) :
    (10 : ℚ) ^ (((Numeral.ofNat 10 digits).length : Int) - 1 + exponent) ≤ digits * 10 ^ exponent := by
  obtain ⟨_, above⟩ := Numeral.ofNat_bounds digits
  have one : 1 ≤ (Numeral.ofNat 10 digits).length :=
    List.length_pos_iff.mpr (Numeral.ofNat_ne_nil 10 digits)
  rw [Nat.max_eq_right (Nat.one_le_iff_ne_zero.mpr some)] at above
  rw [zpow_add₀ (by norm_num), ← Nat.cast_one, ← Nat.cast_sub one, zpow_natCast]
  gcongr
  exact_mod_cast above

section Interval

variable {x : Double} (positive : 0 < x.significand)

include positive

/-- A double lies in its own interval. -/
theorem encloses_size : x.Encloses x.size := by
  have unit := x.quarter_pos
  have scale : x.size = 4 * x.significand * x.quarter := by
    rw [size, mul_comm 4 (x.significand : ℚ), mul_assoc, ← (by norm_num : (2 : ℚ) ^ 2 = 4),
      ← zpow_exponent_add x 2]
    congr 2
    push_cast
    ring
  rw [Encloses, lower_eq positive, upper_eq, scale]
  refine ⟨.inl ?_, .inl (by linarith)⟩
  split <;> linarith

/-- The decimal that is selected for a double lies in its interval. -/
theorem encloses_shortest (tie : Tie) : x.Encloses (x.shortest tie).value := by
  have nonzero : x.isZero = false := by
    refine Bool.eq_false_iff.mpr fun zero => ?_
    rw [isZero, beq_iff_eq, magnitude_eq] at zero
    omega
  rw [shortest, if_neg (Bool.eq_false_iff.mp nonzero), Decimal.value_stripWithin]
  generalize (List.range 17).map _ = grids
  cases found : grids.findSome? (x.onGrid? tie) with
  | none =>
    rw [Option.getD_none, value_exactDecimal]
    exact encloses_size positive
  | some decimal =>
    obtain ⟨exponent, _, success⟩ := List.exists_of_findSome?_eq_some found
    exact readsBack_iff.mp (readsBack_of_onGrid? success)

section Decimals

variable {digits : Nat} {exponent : Int} (encloses : x.Encloses (digits * (10 : ℚ) ^ exponent))

include encloses

theorem digits_ne_zero_of_encloses : digits ≠ 0 := by
  rintro rfl
  exact absurd (encloses.pos positive) (by simp)

/-- A decimal in the interval of a double is not too small to be read. -/
theorem lt_length_of_encloses : -400 < ((Numeral.ofNat 10 digits).length : Int) + exponent := by
  have base : (1 : ℚ) < 10 := by norm_num
  have unit : (2 : ℚ) ^ (-1088 : Int) ≤ x.quarter :=
    zpow_le_zpow_right₀ (by norm_num) (by have := x.exponent_ge; omega)
  have full : (1 : ℚ) ≤ x.significand := by exact_mod_cast positive
  have tiny : (10 : ℚ) ^ (-400 : Int) < 2 ^ (-1088 : Int) := by
    rw [zpow_neg, zpow_neg, inv_lt_inv₀ (by positivity) (by positivity)]
    exact two_zpow_lt_ten_zpow
  refine (zpow_lt_zpow_iff_right₀ base).mp ?_
  calc (10 : ℚ) ^ (-400 : Int) < 2 ^ (-1088 : Int) := tiny
    _ ≤ x.quarter := unit
    _ ≤ (4 * x.significand - 2) * x.quarter := le_mul_of_one_le_left x.quarter_pos.le (by linarith)
    _ ≤ digits * 10 ^ exponent := encloses.lower_le positive
    _ < 10 ^ ((Numeral.ofNat 10 digits).length + exponent : Int) := lt_ten_zpow_length digits exponent

variable (finite : x.isFinite = true)

include finite

/-- A decimal in the interval of a double is not too large to be read. -/
theorem length_lt_of_encloses : ((Numeral.ofNat 10 digits).length : Int) - 1 + exponent < 400 := by
  have base : (1 : ℚ) < 10 := by norm_num
  have top : x.exponent + 53 ≤ 1088 := by
    have small : x.magnitude < infinityMagnitude := of_decide_eq_true finite
    rw [infinityMagnitude] at small
    rw [Double.exponent, exponentUnit]
    split <;> omega
  refine (zpow_lt_zpow_iff_right₀ base).mp ?_
  calc (10 : ℚ) ^ (((Numeral.ofNat 10 digits).length : Int) - 1 + exponent)
    _ ≤ digits * 10 ^ exponent :=
      ten_zpow_length_le (digits_ne_zero_of_encloses positive encloses) exponent
    _ < 2 ^ (x.exponent + 53) := encloses.lt_top
    _ ≤ 2 ^ (1088 : Int) := zpow_le_zpow_right₀ (by norm_num) top
    _ < 10 ^ (400 : Int) := two_zpow_lt_ten_zpow

/-- A decimal in the interval of a double reads as that double. -/
theorem ofDecimal_eq (unsigned : x.isNegative = false) : ofDecimal digits exponent = x := by
  have low := lt_length_of_encloses positive encloses
  have high := length_lt_of_encloses positive encloses finite
  rw [ofDecimal, if_neg (digits_ne_zero_of_encloses positive encloses)]
  generalize (Numeral.ofNat 10 digits).length = length at low high ⊢
  rw [if_neg (by omega), if_neg (by omega)]
  refine nearest_eq finite unsigned positive (Nat.ne_of_gt (Nat.pow_pos (by decide))) ?_
  rw [zpow_eq_div (by norm_num)] at encloses
  simp only [Nat.pow_eq]
  push_cast
  rwa [← mul_div_assoc] at encloses

end Decimals

end Interval

/-- Digits on both sides of a point read as a decimal with as many places as there are behind it. -/
theorem readDecimal?_of_point {whole fraction : List Char} (spelled : whole ≠ [])
    (before : ∀ c ∈ whole, c.isDigit = true) (behind : ∀ c ∈ fraction, c.isDigit = true) :
    readDecimal? (whole ++ '.' :: fraction) =
      some (ofDecimal (digitsValue (whole ++ fraction)) (-(fraction.length : Int))) := by
  have point : ∀ c ∈ ('.' :: fraction).head?, c.isDigit = false := fun c first =>
    Option.some.inj first ▸ rfl
  have some : whole.isEmpty = false := List.isEmpty_eq_false_iff.mpr spelled
  rw [readDecimal?, spanDigits_append before point]
  simp only [spanDigits_of_digits behind, some, Bool.false_and, Bool.false_eq_true, if_false, bind, Option.bind, zero_sub]

theorem isDigit_of_mem_zeros (count : Int) : ∀ c ∈ Layout.zeros count, c.isDigit = true :=
  fun _ member => List.eq_of_mem_replicate member ▸ rfl

/-- Runs of digits that denote the number if a point stands between them. -/
structure PointsAt (whole fraction : List Char) (value : ℚ) : Prop where
  spelled : whole ≠ [] ∧ fraction ≠ []
  before : ∀ c ∈ whole, c.isDigit = true
  behind : ∀ c ∈ fraction, c.isDigit = true
  value_eq : (digitsValue (whole ++ fraction) : ℚ) * 10 ^ (-(fraction.length : Int)) = value

section Point

variable {text : List Char} {exponent : Int} (spelled : text ≠ []) (digits : ∀ c ∈ text, c.isDigit = true)

include spelled digits

/-- All digits stand behind the point, with zeros in front of them. -/
theorem pointsAt_of_small (small : exponent + text.length ≤ 0) :
    PointsAt ['0'] (Layout.zeros (-(exponent + text.length)) ++ text)
      (digitsValue text * 10 ^ exponent) := by
  have places : (Layout.zeros (-(exponent + text.length)) ++ text).length = -exponent := by
    rw [List.length_append, Layout.zeros, List.length_replicate]
    omega
  refine ⟨⟨List.cons_ne_nil _ _, List.append_ne_nil_of_right_ne_nil _ spelled⟩,
    List.forall_mem_singleton.mpr rfl, List.forall_mem_append.mpr ⟨isDigit_of_mem_zeros _, digits⟩, ?_⟩
  rw [places, neg_neg, digitsValue_append, digitsValue_append, Layout.zeros, digitsValue_zeros]
  simp [digitsValue]

/-- All digits stand in front of the point, with zeros behind them. -/
theorem pointsAt_of_large (large : text.length ≤ exponent + text.length) :
    PointsAt (text ++ Layout.zeros (exponent + text.length - text.length)) ['0']
      (digitsValue text * 10 ^ exponent) := by
  have exact : (exponent.toNat : Int) = exponent := Int.toNat_of_nonneg (by omega)
  refine ⟨⟨List.append_ne_nil_of_left_ne_nil spelled _, List.cons_ne_nil _ _⟩,
    List.forall_mem_append.mpr ⟨digits, isDigit_of_mem_zeros _⟩, List.forall_mem_singleton.mpr rfl, ?_⟩
  rw [digitsValue_append, digitsValue_append, Layout.zeros, digitsValue_zeros,
    add_sub_cancel_right, List.length_replicate, ← exact, zpow_natCast, Int.toNat_natCast]
  simp [digitsValue]

omit spelled in
/-- The point stands among the digits. -/
theorem pointsAt_of_between (some : 0 < exponent + text.length) (short : exponent + text.length < text.length) :
    PointsAt (text.take (exponent + text.length).toNat) (text.drop (exponent + text.length).toNat)
      (digitsValue text * 10 ^ exponent) := by
  have count : ((exponent + text.length).toNat : Int) = exponent + text.length :=
    Int.toNat_of_nonneg (by omega)
  have places : ((text.drop (exponent + text.length).toNat).length : Int) = -exponent := by
    rw [List.length_drop]
    omega
  refine ⟨⟨List.length_pos_iff.mp ?_, List.length_pos_iff.mp (by omega)⟩,
    fun c member => digits c (List.mem_of_mem_take member),
    fun c member => digits c (List.mem_of_mem_drop member), ?_⟩
  · rw [List.length_take]
    omega
  · rw [List.take_append_drop, places, neg_neg]

end Point

/-- The digits of a decimal, with a point put among or behind them where it belongs. -/
theorem exists_point (decimal : Decimal) :
    ∃ whole fraction : List Char,
      (if !(EvalError.plainLayout.decimalText decimal).contains '.' then
        EvalError.plainLayout.decimalText decimal ++ ['.', '0']
      else EvalError.plainLayout.decimalText decimal) = whole ++ '.' :: fraction ∧
      PointsAt whole fraction decimal.value := by
  have digits := Numeral.isDigit_of_mem_ofNat (n := decimal.digits)
  have spelled := Numeral.ofNat_ne_nil 10 decimal.digits
  have positional : EvalError.plainLayout.decimalText decimal =
      EvalError.plainLayout.positionalText (Numeral.ofNat 10 decimal.digits)
        (decimal.exponent + (Numeral.ofNat 10 decimal.digits).length) := by
    rw [Layout.decimalText, show EvalError.plainLayout.positional _ = true from rfl, if_pos rfl,
      sub_add_cancel]
  have value := (digitsValue_ofNat decimal.digits).symm
  rw [positional, Decimal.value]
  generalize Numeral.ofNat 10 decimal.digits = text at digits spelled value ⊢
  rw [Layout.positionalText, value]
  split
  · next small =>
    refine ⟨_, _, ?_, pointsAt_of_small spelled digits small⟩
    rw [if_neg (by simp)]
    rfl
  · next some =>
    split
    · next large =>
      refine ⟨_, _, ?_, pointsAt_of_large spelled digits large⟩
      have uncut : (text ++ Layout.zeros (decimal.exponent + text.length - text.length)).contains '.' =
          false := by
        rw [← Bool.not_eq_true, List.contains_iff_mem]
        intro point
        exact absurd (List.forall_mem_append.mpr ⟨digits, isDigit_of_mem_zeros _⟩ '.' point) (by decide)
      rw [show EvalError.plainLayout.pointZero = false from rfl, if_neg Bool.false_ne_true,
        List.append_nil, uncut]
      rfl
    · next short =>
      refine ⟨_, _, ?_, pointsAt_of_between digits (not_le.mp some) (not_le.mp short)⟩
      rw [if_neg (by simp)]

/-- A number without a sign is written as two runs of digits with a point between them, and reads back. -/
theorem exists_literalText {x : Double} (finite : x.isFinite = true) (unsigned : x.isNegative = false) :
    ∃ whole fraction : List Char, x.literalText = whole ++ '.' :: fraction ∧
      (whole ≠ [] ∧ fraction ≠ []) ∧ (∀ c ∈ whole, c.isDigit = true) ∧
      (∀ c ∈ fraction, c.isDigit = true) ∧ readDecimal? x.literalText = some x := by
  have small : x.magnitude < infinityMagnitude := of_decide_eq_true finite
  have number : x.isNaN = false := decide_eq_false (Nat.lt_asymm small)
  have bounded : x.isInfinite = false := beq_eq_false_iff_ne.mpr (Nat.ne_of_lt small)
  obtain ⟨whole, fraction, same, spelled, before, behind, value⟩ := exists_point (x.shortest .upward)
  have written : x.literalText = whole ++ '.' :: fraction := by
    rw [literalText, Layout.text, number, bounded, unsigned, finite, ← same]
    rfl
  refine ⟨whole, fraction, written, spelled, before, behind, ?_⟩
  rw [written, readDecimal?_of_point spelled.1 before behind]
  congr 1
  rcases Nat.eq_zero_or_pos x.significand with none | positive
  · have zero : x.magnitude = 0 := by
      rw [significand, exponentUnit] at none
      split at none <;> omega
    have least : x = Double.zero := by
      rw [isNegative, decide_eq_false_iff_not] at unsigned
      rw [Double.magnitude] at zero
      have bits : x.bits = 0 := UInt64.toNat_inj.mp (by rw [UInt64.toNat_zero]; omega)
      exact congrArg Double.mk bits
    have nothing : digitsValue (whole ++ fraction) = 0 := by
      rw [shortest, if_pos (by rw [isZero, zero]; rfl), Decimal.value] at value
      simpa using value
    rw [ofDecimal, if_pos nothing, least]
  · refine ofDecimal_eq positive ?_ finite unsigned
    rw [value]
    exact encloses_shortest positive _

end Double

end Reckoner
