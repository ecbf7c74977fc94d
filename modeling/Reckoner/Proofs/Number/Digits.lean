import Reckoner.Number.Reader
import Reckoner.Proofs.Writing.Numeral
import Mathlib.Tactic.Ring

/-! # Runs of digits

How many digits a number has, and what number a run of digits denotes. Runs are put together by shifting
the front by as many places as the back has digits, so zeros in front do not count.
-/

namespace Reckoner

namespace Numeral

/-- As many digits as a number has bound it on both sides; a zero has one digit. -/
theorem ofNat_bounds (n : Nat) : n < 10 ^ (ofNat 10 n).length ∧
    10 ^ ((ofNat 10 n).length - 1) ≤ max 1 n := by
  refine ofNat_induction (by decide)
    (motive := fun n text => n < 10 ^ text.length ∧ 10 ^ (text.length - 1) ≤ max 1 n) ?_ ?_ n
  · exact fun digit small => ⟨small, Nat.le_max_left 1 digit⟩
  · intro n digit positive small bounds
    rw [Nat.max_eq_right positive] at bounds
    obtain ⟨places, same⟩ := Nat.exists_eq_succ_of_ne_zero (List.length_pos_iff.mpr (ofNat_ne_nil 10 n)).ne'
    rw [same, Nat.succ_sub_one] at bounds
    rw [List.length_append, List.length_singleton, same, Nat.add_sub_cancel]
    refine ⟨?_, Nat.le_trans ?_ (Nat.le_max_right 1 _)⟩
    · rw [pow_succ]
      omega
    · rw [pow_succ]
      omega

end Numeral

/-- Reading digits from the left onto a value shifts the value by their number. -/
theorem foldl_digits (value : Nat) (text : List Char) :
    text.foldl (fun value c => value * 10 + (c.toNat - 48)) value =
      value * 10 ^ text.length + digitsValue text := by
  induction text generalizing value with
  | nil => simp only [digitsValue, List.foldl_nil, List.length_nil, Nat.pow_zero, Nat.mul_one, Nat.add_zero]
  | cons c rest ih =>
    rw [digitsValue, List.foldl_cons, List.foldl_cons, ih, ih (0 * 10 + _), List.length_cons, pow_succ]
    ring

/-- Digits behind others count for less by the length of those in front of them. -/
theorem digitsValue_append (front back : List Char) :
    digitsValue (front ++ back) = digitsValue front * 10 ^ back.length + digitsValue back := by
  rw [digitsValue, List.foldl_append, foldl_digits]
  rfl

theorem digitsValue_zeros (count : Nat) : digitsValue (List.replicate count '0') = 0 := by
  induction count with
  | zero => rfl
  | succ count ih => rw [List.replicate_succ', digitsValue_append, ih]; rfl

/-- The digits of a number are read as the number. -/
theorem digitsValue_ofNat (n : Nat) : digitsValue (Numeral.ofNat 10 n) = n := by
  have last : ∀ digit < 10, digitsValue [Numeral.digitChar digit] = digit := by decide
  refine Numeral.ofNat_induction (by decide) (motive := fun n text => digitsValue text = n) last ?_ n
  intro n digit _ small front
  rw [digitsValue_append, front, last digit small, List.length_singleton, Nat.pow_one]

/-- The digits in front of a text end where the first other character stands. -/
theorem spanDigits_append {digits rest : List Char} (all : ∀ c ∈ digits, c.isDigit = true)
    (ends : ∀ c ∈ rest.head?, c.isDigit = false) : spanDigits (digits ++ rest) = (digits, rest) := by
  have none : rest.takeWhile Char.isDigit = [] ∧ rest.dropWhile Char.isDigit = rest := by
    cases rest with
    | nil => exact ⟨rfl, rfl⟩
    | cons c rest =>
      have other : ¬ c.isDigit = true := Bool.eq_false_iff.mp (ends c rfl)
      exact ⟨List.takeWhile_cons_of_neg other, List.dropWhile_cons_of_neg other⟩
  rw [spanDigits, List.takeWhile_append_of_pos all, List.dropWhile_append_of_pos all, none.1, none.2,
    List.append_nil]

theorem spanDigits_of_digits {digits : List Char} (all : ∀ c ∈ digits, c.isDigit = true) :
    spanDigits digits = (digits, []) := by
  have whole : spanDigits (digits ++ []) = (digits, []) := spanDigits_append all fun c first => by cases first
  rwa [List.append_nil] at whole

end Reckoner
