import Reckoner.Proofs.Writing.Numeral
import Mathlib.Data.Nat.Digits.Lemmas

/-! # One numeral for each long

Of all texts that read as a long in a radix, one has capital digits only, no zero in front of other digits,
and a sign exactly if the long is negative. Longs are written as that text, so no two of them alike. Its
digits are those of the positional notation of the magnitude, for the least long too, whose magnitude is no
long; in decimal it is the usual text of an integer.
-/

namespace Reckoner

namespace Numeral

/-- One of the digits `0` to `9` and `A` to `Z`, with a value below the radix. -/
def isDigitBelow (radix : Nat) (c : Char) : Bool :=
  ('0' ≤ c ∧ c ≤ '9' ∨ 'A' ≤ c ∧ c ≤ 'Z') && (digitValue? c).any (· < radix)

/-- The digits of a number, with a zero in front only if there is no other digit. -/
structure IsCanonical (radix : Nat) (text : List Char) : Prop where
  spelled : text ≠ []
  digits : ∀ c ∈ text, isDigitBelow radix c = true
  significant : text.head? = some '0' → text = ['0']

/-- A minus sign in front of the digits of a number other than zero, or digits alone. -/
inductive IsCanonicalInt (radix : Nat) : List Char → Prop where
  | unsigned {text : List Char} (canonical : IsCanonical radix text) : IsCanonicalInt radix text
  | negative {text : List Char} (canonical : IsCanonical radix text) (nonzero : text ≠ ['0']) :
    IsCanonicalInt radix ('-' :: text)

instance (radix : Nat) (text : List Char) : Decidable (IsCanonical radix text) :=
  decidable_of_iff (text ≠ [] ∧ (∀ c ∈ text, isDigitBelow radix c = true) ∧
      (text.head? = some '0' → text = ['0']))
    ⟨fun ⟨spelled, digits, significant⟩ => ⟨spelled, digits, significant⟩,
      fun ⟨spelled, digits, significant⟩ => ⟨spelled, digits, significant⟩⟩

variable {radix : Nat}

/-- There is one capital digit for each value. -/
theorem isDigitBelow_iff (atMost : radix ≤ 36) {c : Char} :
    isDigitBelow radix c = true ↔ ∃ digit < radix, digitChar digit = c := by
  rw [isDigitBelow, Bool.and_eq_true, decide_eq_true_eq, Option.any_eq_true]
  constructor
  · rintro ⟨capital, digit, value, small⟩
    refine ⟨digit, of_decide_eq_true small, ?_⟩
    rcases capital with figure | letter
    · have low : 48 ≤ c.toNat := figure.1
      have high : c.toNat ≤ 57 := figure.2
      simp only [digitValue?, if_pos figure, Option.some.injEq] at value
      rw [digitChar, if_pos (by omega), ← value, Nat.add_sub_cancel' low, Char.ofNat_toNat]
    · have low : 65 ≤ c.toNat := letter.1
      have noFigure : ¬('0' ≤ c ∧ c ≤ '9') := by
        intro figure
        have high : c.toNat ≤ 57 := figure.2
        omega
      simp only [digitValue?, if_neg noFigure, if_pos letter, Option.some.injEq] at value
      rw [digitChar, if_neg (by omega), ← value, Nat.add_sub_cancel' (by omega), Char.ofNat_toNat]
  · rintro ⟨digit, small, rfl⟩
    have capital : ∀ digit < 36,
        '0' ≤ digitChar digit ∧ digitChar digit ≤ '9' ∨ 'A' ≤ digitChar digit ∧ digitChar digit ≤ 'Z' := by
      decide
    have known : digit < 36 := Nat.lt_of_lt_of_le small atMost
    exact ⟨capital digit known, digit, digitValue?_digitChar known, decide_eq_true small⟩

/-- The digits of a positive number are those of its positional notation, the last one first. -/
theorem ofNat_eq_digits (atLeast : 2 ≤ radix) {n : Nat} (positive : 0 < n) :
    ofNat radix n = ((Nat.digits radix n).map digitChar).reverse := by
  refine ofNat_induction atLeast
    (motive := fun n text => 0 < n → text = ((Nat.digits radix n).map digitChar).reverse) ?_ ?_ n positive
  · intro digit small positive
    rw [Nat.digits_of_lt radix digit (Nat.ne_of_gt positive) small, List.map_singleton,
      List.reverse_singleton]
  · intro n digit some small front _
    rw [Nat.add_comm, Nat.mul_comm, Nat.digits_add radix atLeast digit n small (.inr (Nat.ne_of_gt some)),
      List.map_cons, List.reverse_cons, ← front some]

section Radix

variable (atLeast : 2 ≤ radix) (atMost : radix ≤ 36)

include atLeast atMost

/-- Only zero is written with a zero in front. -/
theorem eq_zero_of_head?_ofNat {n : Nat} (zero : (ofNat radix n).head? = some '0') : n = 0 := by
  have none : ∀ digit < 36, digitChar digit = '0' → digit = 0 := by decide
  refine Nat.eq_zero_of_not_pos fun positive => ?_
  have nonzero : n ≠ 0 := Nat.ne_of_gt positive
  rw [ofNat_eq_digits atLeast positive, List.head?_reverse, List.getLast?_map,
    List.getLast?_eq_some_getLast (Nat.digits_ne_nil_iff_ne_zero.mpr nonzero)] at zero
  have first := Nat.digits_lt_base atLeast (List.getLast_mem (Nat.digits_ne_nil_iff_ne_zero.mpr nonzero))
  exact Nat.getLast_digit_ne_zero radix nonzero
    (none _ (Nat.lt_of_lt_of_le first atMost) (Option.some.inj zero))

/-- The digits of a number are canonical. -/
theorem isCanonical_ofNat (n : Nat) : IsCanonical radix (ofNat radix n) where
  spelled := ofNat_ne_nil radix n
  digits c member := (isDigitBelow_iff atMost).mpr (exists_digit_of_mem_ofNat atLeast c member)
  significant := by
    intro zero
    rw [eq_zero_of_head?_ofNat atLeast atMost zero, ofNat_of_lt (by omega)]
    rfl

/-- The numeral of an integer is canonical. -/
theorem isCanonicalInt_ofInt (n : Int) : IsCanonicalInt radix (ofInt radix n) := by
  have canonical := isCanonical_ofNat atLeast atMost n.natAbs
  rw [ofInt]
  split
  · next negative =>
    refine .negative canonical fun zero => ?_
    have none := eq_zero_of_head?_ofNat atLeast atMost (congrArg List.head? zero)
    omega
  · exact .unsigned canonical

/-- Canonical digits are the numeral of the number that they are read as. -/
theorem ofNat_of_readNat? {text : List Char} {n : Nat} (canonical : IsCanonical radix text)
    (read : readNat? radix text = some n) : ofNat radix n = text := by
  induction text using List.reverseRecOn generalizing n with
  | nil => exact absurd rfl canonical.spelled
  | append_singleton front c ih =>
    obtain ⟨others, here⟩ := List.forall_mem_append.mp canonical.digits
    obtain ⟨digit, small, rfl⟩ := (isDigitBelow_iff atMost).mp (here c (List.mem_singleton_self c))
    rw [readNat?, if_neg (by simp), readOnto?_append] at read
    obtain ⟨m, before, step⟩ := Option.bind_eq_some_iff.mp read
    rw [readOnto?_digitChar atMost m small] at step
    obtain rfl := Option.some.inj step
    cases front with
    | nil =>
      obtain rfl := Option.some.inj before
      rw [Nat.zero_mul, Nat.zero_add, ofNat_of_lt small]
      rfl
    | cons first rest =>
      -- A zero in front would be superfluous, so what is in front is canonical and positive.
      have significant : first ≠ '0' := by
        rintro rfl
        exact absurd (canonical.significant rfl) (by simp)
      have written : ofNat radix m = first :: rest :=
        ih ⟨List.cons_ne_nil _ _, others, fun zero => absurd (Option.some.inj zero) significant⟩ before
      have positive : 0 < m := by
        refine Nat.pos_of_ne_zero fun zero => significant ?_
        rw [zero, ofNat_of_lt (by omega)] at written
        exact (List.cons.inj written).1.symm
      rw [ofNat_concat atLeast positive small, written]

/-- A canonical numeral is the one of the integer that it is read as. -/
theorem ofInt_of_readInt? {text : List Char} {n : Int} (canonical : IsCanonicalInt radix text)
    (read : readInt? radix text = some n) : ofInt radix n = text := by
  cases canonical with
  | unsigned canonical =>
    unfold readInt? at read
    split at read
    · exact absurd (canonical.digits '-' (List.mem_cons_self ..)) (by simp [isDigitBelow])
    · exact absurd (canonical.digits '+' (List.mem_cons_self ..)) (by simp [isDigitBelow])
    · obtain ⟨size, natural, rfl⟩ := Option.map_eq_some_iff.mp read
      have unsigned : ¬Int.ofNat size < 0 := Int.not_lt.mpr (Int.natCast_nonneg size)
      rw [ofInt, if_neg unsigned]
      exact ofNat_of_readNat? atLeast atMost canonical natural
  | @negative digits canonical nonzero =>
    obtain ⟨_, magnitude, rfl⟩ := Option.map_eq_some_iff.mp read
    obtain ⟨size, natural, same⟩ := Option.bind_eq_some_iff.mp magnitude
    obtain rfl := Option.some.inj same
    have written : ofNat radix size = digits := ofNat_of_readNat? atLeast atMost canonical natural
    have positive : size ≠ 0 := by
      rintro rfl
      exact nonzero (written ▸ ofNat_of_lt (by omega))
    rw [ofInt, if_pos (by omega), Int.natAbs_neg, Int.natAbs_natCast, written]

end Radix

end Numeral

namespace Long

variable {radix : Nat}

/-- The numeral of a long is the one canonical text that is read as the long. -/
theorem numeral_eq_iff {n : Long} {text : List Char} : n.numeral radix = text ↔
    Numeral.IsCanonicalInt (Numeral.usableRadix radix) text ∧ ofNumeral? radix text = some n := by
  obtain ⟨atLeast, atMost⟩ := Numeral.usableRadix_bounds radix
  constructor
  · rintro rfl
    exact ⟨Numeral.isCanonicalInt_ofInt atLeast atMost n.val, ofNumeral?_numeral radix n⟩
  · rintro ⟨canonical, read⟩
    obtain ⟨size, read, bounded⟩ := Option.bind_eq_some_iff.mp read
    rw [numeral, ofInt?_eq_some_iff.mp bounded]
    exact Numeral.ofInt_of_readInt? atLeast atMost canonical read

example : ofNumeral? 16 ['0', 'f'] = some ⟨15, by decide, by decide⟩ ∧
    ¬Numeral.IsCanonical 16 ['0', 'f'] ∧ ¬Numeral.IsCanonical 16 ['0', 'F'] := by decide

/-- In every radix, also in one without digits, the numeral of a long is read back, is canonical, and is no
other long's. -/
theorem numeral_codec (radix : Nat) :
    (∀ n : Long, ofNumeral? radix (n.numeral radix) = some n ∧
      Numeral.IsCanonicalInt (Numeral.usableRadix radix) (n.numeral radix)) ∧
    Function.Injective (numeral radix) := by
  refine ⟨fun n => (numeral_eq_iff.mp rfl).symm, fun left right same => ?_⟩
  have read := ofNumeral?_numeral radix left
  rw [same, ofNumeral?_numeral] at read
  exact (Option.some.inj read).symm

end Long

end Reckoner
