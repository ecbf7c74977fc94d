import Reckoner.Number.Numeral
import Reckoner.Proofs.Outcome
import Reckoner.Proofs.Source.Literal

/-! # Numerals read back

A number of several digits is written as the number without its last digit, followed by that digit. So a
fact about numerals is shown for single digits and for one digit more, and how many divisions find the
digits is said once. Every numeral reads as the number that it was made of, and so does that of a long
with or without its sign.
-/

namespace Reckoner

namespace Numeral

variable {radix : Nat}

/-- A character of a digit has its value. -/
theorem digitValue?_digitChar {digit : Nat} (small : digit < 36) :
    digitValue? (digitChar digit) = some digit := by
  have all : ∀ digit < 36, digitValue? (digitChar digit) = some digit := by decide
  exact all digit small

theorem isDigit_digitChar {digit : Nat} (small : digit < 10) : (digitChar digit).isDigit = true := by
  have all : ∀ digit < 10, (digitChar digit).isDigit = true := by decide
  exact all digit small

/-- Reading goes on where it was left. -/
theorem readOnto?_append (radix value : Nat) (front back : List Char) :
    readOnto? radix value (front ++ back) =
      (readOnto? radix value front).bind fun middle => readOnto? radix middle back := by
  induction front generalizing value with
  | nil => rfl
  | cons c rest ih =>
    rw [List.cons_append, readOnto?, readOnto?]
    cases digitValue? c with
    | none => rfl
    | some digit =>
      simp only [Option.bind_some, bind]
      split
      · exact ih _
      · rfl

theorem readOnto?_digitChar (atMost : radix ≤ 36) (value : Nat) {digit : Nat} (small : digit < radix) :
    readOnto? radix value [digitChar digit] = some (value * radix + digit) := by
  rw [readOnto?, digitValue?_digitChar (Nat.lt_of_lt_of_le small atMost)]
  simp only [bind, Option.bind_some, if_pos small, readOnto?]

/-- There are digits for the radix that is used, whichever is asked for. -/
theorem usableRadix_bounds (radix : Nat) : 2 ≤ usableRadix radix ∧ usableRadix radix ≤ 36 := by
  unfold usableRadix
  split
  · assumption
  · decide

/-- Every numeral has a digit. -/
theorem ofNat_ne_nil (radix n : Nat) : ofNat radix n ≠ [] := by
  rw [ofNat, digits, digitsWithin]
  split <;> simp

theorem ofNat_of_lt {n : Nat} (small : n < radix) : ofNat radix n = [digitChar n] := by
  rw [ofNat, digits, digitsWithin, if_pos small]
  rfl

section Radix

variable (atLeast : 2 ≤ radix)

include atLeast

/-- Divisions beyond those that a number needs find no other digits. -/
theorem digitsWithin_congr {steps more n : Nat} (enough : n < steps) (enoughToo : n < more) :
    digitsWithin radix steps n = digitsWithin radix more n := by
  induction steps generalizing more n with
  | zero => exact absurd enough (Nat.not_lt_zero n)
  | succ steps ih =>
    obtain ⟨more, rfl⟩ := Nat.exists_eq_add_of_lt (Nat.zero_lt_of_lt enoughToo)
    rw [Nat.zero_add, digitsWithin, digitsWithin]
    split
    · rfl
    · next large =>
      have smaller : n / radix < n := Nat.div_lt_self (by omega) atLeast
      exact congrArg (n % radix :: ·) (ih (by omega) (by omega))

/-- One digit more stands behind the others. -/
theorem ofNat_concat {n digit : Nat} (positive : 0 < n) (small : digit < radix) :
    ofNat radix (n * radix + digit) = ofNat radix n ++ [digitChar digit] := by
  have large : radix ≤ n * radix + digit := Nat.le_add_right_of_le (Nat.le_mul_of_pos_left radix positive)
  have quotient : (n * radix + digit) / radix = n := by
    rw [Nat.add_comm, Nat.add_mul_div_right _ _ (by omega), Nat.div_eq_of_lt small, Nat.zero_add]
  have remainder : (n * radix + digit) % radix = digit := by
    rw [Nat.mul_add_mod', Nat.mod_eq_of_lt small]
  have smaller : n < n * radix + digit := by
    have double : n * 2 ≤ n * radix := Nat.mul_le_mul_left n atLeast
    omega
  rw [ofNat, digits, digitsWithin, if_neg (Nat.not_lt.mpr large), quotient, remainder,
    digitsWithin_congr atLeast smaller (Nat.lt_succ_self n), List.reverse_cons, List.map_append]
  rfl

/-- What holds of single digits, and with one digit more wherever it holds, holds of every numeral. -/
theorem ofNat_induction {motive : Nat → List Char → Prop}
    (single : ∀ digit < radix, motive digit [digitChar digit])
    (another : ∀ n digit, 0 < n → digit < radix → motive n (ofNat radix n) →
      motive (n * radix + digit) (ofNat radix n ++ [digitChar digit]))
    (n : Nat) : motive n (ofNat radix n) := by
  induction n using Nat.strongRecOn with
  | ind n ih =>
    by_cases small : n < radix
    · rw [ofNat_of_lt small]
      exact single n small
    · have positive : 0 < n / radix := Nat.div_pos (Nat.not_lt.mp small) (by omega)
      have last : n % radix < radix := Nat.mod_lt n (by omega)
      have whole := another (n / radix) (n % radix) positive last
        (ih (n / radix) (Nat.div_lt_self (by omega) atLeast))
      rwa [← ofNat_concat atLeast positive last, Nat.div_add_mod'] at whole

/-- A numeral consists of digits of its radix. -/
theorem exists_digit_of_mem_ofNat {n : Nat} :
    ∀ c ∈ ofNat radix n, ∃ digit < radix, digitChar digit = c := by
  refine ofNat_induction atLeast
    (motive := fun _ text => ∀ c ∈ text, ∃ digit < radix, digitChar digit = c) ?_ ?_ n
  · exact fun digit small => List.forall_mem_singleton.mpr ⟨digit, small, rfl⟩
  · exact fun n digit _ small front =>
      List.forall_mem_append.mpr ⟨front, List.forall_mem_singleton.mpr ⟨digit, small, rfl⟩⟩

variable (atMost : radix ≤ 36)

include atMost

/-- A natural number is read back from its numeral. -/
theorem readNat?_ofNat (n : Nat) : readNat? radix (ofNat radix n) = some n := by
  rw [readNat?, if_neg (by rw [List.isEmpty_iff]; exact ofNat_ne_nil radix n)]
  refine ofNat_induction atLeast (motive := fun n text => readOnto? radix 0 text = some n) ?_ ?_ n
  · intro digit small
    rw [readOnto?_digitChar atMost 0 small, Nat.zero_mul, Nat.zero_add]
  · intro n digit _ small front
    rw [readOnto?_append, front, Option.bind_some, readOnto?_digitChar atMost n small]

/-- No digit is a sign. -/
theorem isWordChar_of_mem_ofNat (n : Nat) : ∀ c ∈ ofNat radix n, Text.isWordChar c = true := by
  intro c member
  obtain ⟨digit, small, rfl⟩ := exists_digit_of_mem_ofNat atLeast c member
  exact isWordChar_of_digitValue? (digitValue?_digitChar (Nat.lt_of_lt_of_le small atMost))

/-- An integer is read back from its numeral. -/
theorem readInt?_ofInt (n : Int) : readInt? radix (ofInt radix n) = some n := by
  have unsigned : readInt? radix (ofNat radix n.natAbs) = some (n.natAbs : Int) := by
    unfold readInt?
    have word := isWordChar_of_mem_ofNat atLeast atMost n.natAbs
    split
    · next same => exact absurd (word '-' (same ▸ List.mem_cons_self ..)) (by decide)
    · next same => exact absurd (word '+' (same ▸ List.mem_cons_self ..)) (by decide)
    · rw [readNat?_ofNat atLeast atMost]
      rfl
  rw [ofInt]
  split
  · next negative =>
    have opposite : -(n.natAbs : Int) = n := by omega
    rw [readInt?, readNat?_ofNat atLeast atMost]
    exact congrArg some opposite
  · next positive =>
    have same : (n.natAbs : Int) = n := by omega
    rw [unsigned, same]

end Radix

theorem isDigit_of_mem_ofNat {n : Nat} : ∀ c ∈ ofNat 10 n, c.isDigit = true := by
  intro c member
  obtain ⟨digit, small, rfl⟩ := exists_digit_of_mem_ofNat (by decide) c member
  exact isDigit_digitChar small

end Numeral

namespace Long

/-- The numeral of a long reads back in every radix. -/
theorem ofNumeral?_numeral (radix : Nat) (n : Long) : ofNumeral? radix (n.numeral radix) = some n := by
  obtain ⟨atLeast, atMost⟩ := Numeral.usableRadix_bounds radix
  rw [ofNumeral?, numeral, Numeral.readInt?_ofInt atLeast atMost]
  exact ofInt?_eq_some_iff.mpr rfl

/-- In decimal a long without a sign is made of digits. -/
theorem isDigit_of_mem_numeral {n : Long} (unsigned : 0 ≤ n.val) :
    ∀ c ∈ n.numeral 10, c.isDigit = true := by
  have positive : ¬ n.val < 0 := Int.not_lt.mpr unsigned
  rw [numeral, Numeral.ofInt, if_neg positive]
  exact Numeral.isDigit_of_mem_ofNat

end Long

end Reckoner
