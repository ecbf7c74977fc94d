import Reckoner.Proofs.Writing.Sign
import Reckoner.Proofs.Writing.Year

/-! # Values that can be written

All values but a few are written in a way that is read back: the least long has no opposite, a text with
a quote has no literal, and the sign of a NaN and the fraction of a second are lost.
-/

namespace Reckoner

/-- What is written for the value denotes it again. -/
def Value.Sayable : Value → Prop
  | .long n => n.neg?.isSome = true
  | .double x => x.isNaN = true → x = Double.nan
  | .string text => '"' ∉ text.toList
  | .time clock => clock.fraction = 0
  | .dateTime moment => moment.time.fraction = 0
  | _ => True

instance (value : Value) : Decidable value.Sayable :=
  match value with
  | .long n => inferInstanceAs (Decidable (n.neg?.isSome = true))
  | .double x => inferInstanceAs (Decidable (x.isNaN = true → x = Double.nan))
  | .string text => inferInstanceAs (Decidable ('"' ∉ text.toList))
  | .time clock => inferInstanceAs (Decidable (clock.fraction = 0))
  | .dateTime moment => inferInstanceAs (Decidable (moment.time.fraction = 0))
  | .null | .boolean _ | .date _ => inferInstanceAs (Decidable True)

namespace Double

/-- An infinity without a sign is the positive one. -/
theorem eq_infinity {x : Double} (unsigned : x.isNegative = false) (infinite : x.isInfinite = true) :
    x = infinity := by
  have bits : x.bits.toNat = infinityMagnitude := by
    rw [isNegative, decide_eq_false_iff_not, Nat.not_le] at unsigned
    rw [isInfinite, beq_iff_eq, magnitude, Nat.mod_eq_of_lt unsigned] at infinite
    exact infinite
  have same : x.bits = infinity.bits := UInt64.toNat_inj.mp bits
  cases x
  exact congrArg Double.mk same

/-- A double that is neither finite nor an infinity is no number. -/
theorem isInfinite_of_not {x : Double} (number : x.isNaN = false) (large : x.isFinite = false) :
    x.isInfinite = true := by
  rw [isNaN, decide_eq_false_iff_not] at number
  rw [isFinite, decide_eq_false_iff_not] at large
  rw [isInfinite, beq_iff_eq]
  omega

theorem neg_ne {x : Double} : x.neg.isFinite = x.isFinite ∧ x.neg.isNaN = x.isNaN := by
  simp only [isFinite, isNaN, x.neg_spec.1, and_self]

end Double

namespace Engine

variable {engine : Engine} {base : Tag}

/-- The keys of the words for doubles that are no decimals. -/
def measureKeys : List (List Char) := [['i', 'n', 'f'], ['n', 'a', 'n']]

/-- Nothing is named by the words for doubles. -/
def Unmeasured (engine : Engine) : Prop :=
  ∀ text : List Char, nameKey text ∈ measureKeys → engine.named? text = none

namespace Legible

variable (legible : engine.Legible base)

include legible

/-- A value that is spelled without loss says itself. -/
theorem says_of_isSpelled {value : Value} (spelled : value.isSpelled = true) : engine.Says value := by
  obtain ⟨text, written, solid, unnamed, denotes⟩ := Dialect.literal?_of_isSpelled spelled
  exact ⟨text, legible.writes_value written solid (legible.named?_of_unnamed unnamed) denotes⟩

/-- A value without a numeric sign is read back if its text can be. -/
theorem saysSigned_of_isSpelled {value : Value} (plain : value.opposite? = none)
    (spelled : value.isSpelled = true) : engine.SaysSigned value := by
  rw [SaysSigned, plain]
  exact legible.says_of_isSpelled spelled

/-- A moment with a signed year says itself behind its sign, if it has no fraction of a second. -/
theorem saysSigned_of_hasSignedYear {value : Value} (plain : value.opposite? = none)
    (signed : value.hasSignedYear = true)
    (whole : ∀ moment, value = .dateTime moment → moment.time.fraction = 0) :
    engine.SaysSigned value := by
  rw [SaysSigned, plain]
  exact legible.writes_signedYear signed whole

/-- A long that has an opposite is read back, or its opposite is. -/
theorem saysSigned_long {n m : Long} (opposite : n.neg? = some m) : engine.SaysSigned (.long n) := by
  have negated := Long.ofInt?_eq_some_iff.mp opposite
  by_cases negative : n.val < 0
  · have shown : (Value.long n).opposite? = some (.long m) := by
      rw [Value.opposite?, if_pos negative, opposite]
      rfl
    rw [SaysSigned, shown]
    exact legible.says_of_isSpelled (decide_eq_true (show 0 ≤ m.val by omega))
  · refine legible.saysSigned_of_isSpelled ?_ (decide_eq_true (show 0 ≤ n.val by omega))
    rw [Value.opposite?, if_neg negative]

variable (unmeasured : engine.Unmeasured)

include unmeasured

/-- A word for a double is no block, no name and no call. -/
theorem named?_of_measure {text : List Char} (word : ∀ c ∈ text, Text.isWordChar c = true)
    (measure : nameKey text ∈ measureKeys) : text.head? ≠ some '(' ∧
      engine.named? text = none ∧ engine.call? text = none := by
  have free := Dialect.parenthesis_not_mem_of_word word
  refine ⟨Dialect.head?_ne_of_not_mem free, unmeasured _ measure, ?_⟩
  rw [call?, legible.dialect, Dialect.call?_eq_none free]
  rfl

/-- The infinity and the NaN without a sign are written as words. -/
theorem says_of_measure {x : Double} (measure : x = Double.infinity ∨ x = Double.nan) :
    engine.Says (.double x) := by
  have word (text : List Char) (spelled : text ≠ []) (word : ∀ c ∈ text, Text.isWordChar c = true)
      (key : nameKey text ∈ measureKeys)
      (written : x.literalText = text)
      (denotes : Dialect.standard.literal? text = some (.double x)) : engine.Says (.double x) :=
    ⟨text, legible.writes_value (written ▸ Dialect.literalText_kind (.double x))
      (Text.solid_of_word spelled word) (legible.named?_of_measure unmeasured word key) denotes⟩
  rcases measure with rfl | rfl
  · exact word ['i', 'n', 'f'] (by decide) (by decide) (by decide) (by decide +kernel)
      (by decide +kernel)
  · exact word ['N', 'a', 'N'] (by decide) (by decide) (by decide) (by decide +kernel)
      (by decide +kernel)

/-- Doubles without a sign that are numbers are written in digits or as the infinity. -/
theorem says_of_unsigned {x : Double} (unsigned : x.isNegative = false) (number : x.isNaN = false) :
    engine.Says (.double x) := by
  cases finite : x.isFinite with
  | true =>
    refine legible.says_of_isSpelled ?_
    rw [Value.isSpelled, finite, unsigned]
    rfl
  | false =>
    exact legible.says_of_measure unmeasured
      (.inl (Double.eq_infinity unsigned (Double.isInfinite_of_not number finite)))

/-- A double is read back, or its opposite is, if there is only one NaN. -/
theorem saysSigned_double {x : Double} (single : x.isNaN = true → x = Double.nan) :
    engine.SaysSigned (.double x) := by
  cases number : x.isNaN with
  | true =>
    have plain : (Value.double x).opposite? = none := by
      rw [Value.opposite?, number, Bool.not_true, Bool.and_false]
      rfl
    rw [SaysSigned, plain]
    exact legible.says_of_measure unmeasured (.inr (single number))
  | false =>
    obtain ⟨_, sign⟩ := x.neg_spec
    cases negative : x.isNegative with
    | true =>
      have shown : (Value.double x).opposite? = some (.double x.neg) := by
        rw [Value.opposite?, number, negative]
        rfl
      rw [SaysSigned, shown]
      exact legible.says_of_unsigned unmeasured (by rw [sign, negative]; rfl)
        (Double.neg_ne.2.trans number)
    | false =>
      have plain : (Value.double x).opposite? = none := by
        rw [Value.opposite?, negative]
        rfl
      rw [SaysSigned, plain]
      exact legible.says_of_unsigned unmeasured negative number

/-- Sayable values are read back, or their opposites are where they have a sign. -/
theorem saysSigned_of_sayable {value : Value} (sayable : value.Sayable) : engine.SaysSigned value := by
  cases value with
  | null | boolean => exact legible.saysSigned_of_isSpelled rfl rfl
  | long n =>
    obtain ⟨m, opposite⟩ := Option.isSome_iff_exists.mp sayable
    exact legible.saysSigned_long opposite
  | double x => exact legible.saysSigned_double unmeasured sayable
  | string text =>
    refine legible.saysSigned_of_isSpelled rfl ?_
    show (!text.toList.contains '"') = true
    rw [Bool.not_eq_true', ← Bool.not_eq_true, List.contains_iff_mem]
    exact sayable
  | date day =>
    cases unsigned : day.isUnsigned with
    | true => exact legible.saysSigned_of_isSpelled rfl unsigned
    | false =>
      exact legible.saysSigned_of_hasSignedYear rfl (by rw [Value.hasSignedYear, unsigned]; rfl)
        fun _ other => by cases other
  | time clock => exact legible.saysSigned_of_isSpelled rfl (beq_iff_eq.mpr sayable)
  | dateTime moment =>
    cases unsigned : moment.date.isUnsigned with
    | true =>
      refine legible.saysSigned_of_isSpelled rfl ?_
      rw [Value.isSpelled, unsigned, Bool.true_and, beq_iff_eq]
      exact sayable
    | false =>
      exact legible.saysSigned_of_hasSignedYear rfl (by rw [Value.hasSignedYear, unsigned]; rfl)
        fun _ same => Value.dateTime.inj same ▸ sayable

end Legible

end Engine

end Reckoner
