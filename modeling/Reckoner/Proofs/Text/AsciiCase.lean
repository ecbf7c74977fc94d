import Reckoner.Proofs.Source.Name

/-! # Texts that differ in the case of ASCII letters

Blanks, digits and the lower case of a text do not tell a letter of ASCII from the same letter in the other
case. So a name is found whatever the case of its letters is.
-/

namespace Reckoner

namespace Text

private theorem kind_toLower (c : Char) :
    (c.toLower.toLower, isBlank c.toLower, c.toLower.isDigit, c.toLower.isAlpha) =
      (c.toLower, isBlank c, c.isDigit, c.isAlpha) :=
  apply_toLower (fun c => (c.toLower, isBlank c, c.isDigit, c.isAlpha)) (by decide +kernel) c

theorem toLower_toLower (c : Char) : c.toLower.toLower = c.toLower :=
  congrArg (·.1) (kind_toLower c)

theorem isBlank_toLower (c : Char) : isBlank c.toLower = isBlank c :=
  congrArg (·.2.1) (kind_toLower c)

theorem isDigit_toLower (c : Char) : c.toLower.isDigit = c.isDigit :=
  congrArg (·.2.2.1) (kind_toLower c)

theorem isAlpha_toLower (c : Char) : c.toLower.isAlpha = c.isAlpha :=
  congrArg (·.2.2.2) (kind_toLower c)

theorem isAlpha_of_isDigit (c : Char) (digit : c.isDigit = true) : c.isAlpha = false :=
  forall_ascii (fun c => c.isDigit = true → c.isAlpha = false) (by decide +kernel)
    (ascii_of_isWordChar (isWordChar_of_isDigit digit)) digit

theorem isAlpha_of_isBlank (c : Char) (blank : isBlank c = true) : c.isAlpha = false :=
  Bool.eq_false_iff.mpr fun letter =>
    absurd blank (Bool.eq_false_iff.mp (isBlank_of_isWordChar (isWordChar_of_isAlpha letter)))

theorem asciiLower_cons (c : Char) (rest : List Char) :
    asciiLower (c :: rest) = c.toLower :: asciiLower rest := rfl

/-- A text in lower case stays as it is. -/
theorem asciiLower_asciiLower (text : List Char) : asciiLower (asciiLower text) = asciiLower text := by
  rw [asciiLower, asciiLower, List.map_map]
  exact List.map_congr_left fun c _ => toLower_toLower c

theorem asciiLower_eq_self {text : List Char} (fixed : ∀ c ∈ text, c.toLower = c) : asciiLower text = text :=
  (List.map_congr_left fixed).trans (List.map_id' text)

/-- Where a text ends or begins does not depend on case. -/
theorem dropWhile_asciiLower {stops : Char → Bool} (caseless : ∀ c, stops c.toLower = stops c)
    (text : List Char) : (asciiLower text).dropWhile stops = asciiLower (text.dropWhile stops) := by
  rw [asciiLower, List.dropWhile_map]
  exact congrArg asciiLower (congrArg (List.dropWhile · text) (funext caseless))

theorem takeWhile_asciiLower {stops : Char → Bool} (caseless : ∀ c, stops c.toLower = stops c)
    (text : List Char) : (asciiLower text).takeWhile stops = asciiLower (text.takeWhile stops) := by
  rw [asciiLower, List.takeWhile_map]
  exact congrArg asciiLower (congrArg (List.takeWhile · text) (funext caseless))

theorem trimStart_asciiLower (text : List Char) : trimStart (asciiLower text) = asciiLower (trimStart text) :=
  dropWhile_asciiLower isBlank_toLower text

/-- Trimming and lowering may change places. -/
theorem trim_asciiLower (text : List Char) : trim (asciiLower text) = asciiLower (trim text) := by
  rw [trim, trimStart_asciiLower, trimEnd, asciiLower, ← List.map_reverse, ← asciiLower,
    dropWhile_asciiLower isBlank_toLower, asciiLower, ← List.map_reverse]
  rfl

private theorem flippedAt_toLower (c : Char) :
    (flippedAt caseIgnorableFlips c.toLower.toNat, flippedAt casedFlips c.toLower.toNat) =
      (flippedAt caseIgnorableFlips c.toNat, flippedAt casedFlips c.toNat) :=
  apply_toLower (fun c => (flippedAt caseIgnorableFlips c.toNat, flippedAt casedFlips c.toNat))
    (by decide +kernel) c

theorem meetsCased_asciiLower (text : List Char) : meetsCased (asciiLower text) = meetsCased text := by
  rw [meetsCased, meetsCased, dropWhile_asciiLower fun c => congrArg (·.1) (flippedAt_toLower c)]
  cases text.dropWhile fun c => flippedAt caseIgnorableFlips c.toNat with
  | nil => rfl
  | cons c rest => exact congrArg (·.2) (flippedAt_toLower c)

private theorem lowerChar_toLower (c : Char) :
    (lowerChar c.toLower, decide (c.toLower = 'Σ')) = (lowerChar c, decide (c = 'Σ')) :=
  apply_toLower (fun c => (lowerChar c, decide (c = 'Σ'))) (by decide +kernel) c

/-- The lower case of a text does not depend on the case of its ASCII letters. -/
theorem lower_asciiLower (text : List Char) : lower (asciiLower text) = lower text := by
  have spread (before : List Char) :
      lowerAfter (asciiLower before) (asciiLower text) = lowerAfter before text := by
    induction text generalizing before with
    | nil => rfl
    | cons c rest ih =>
      have later := ih (c :: before)
      obtain ⟨letter, sigma⟩ := Prod.mk.inj (lowerChar_toLower c)
      rw [asciiLower_cons] at later
      rw [asciiLower_cons, lowerAfter, lowerAfter, later, meetsCased_asciiLower, meetsCased_asciiLower, letter]
      simp only [decide_eq_decide.mp sigma]
  exact spread []

end Text

/-- Names do not depend on ASCII case. -/
theorem nameKey_asciiLower (text : List Char) : nameKey (Text.asciiLower text) = nameKey text := by
  rw [nameKey, Text.trim_asciiLower, Text.lower_asciiLower, nameKey]

/-- What is found in a register does not depend on ASCII case. -/
theorem Register.find?_asciiLower {α : Type} (register : Register α) (text : List Char) :
    register.find? (Text.asciiLower text) = register.find? text := by
  rw [find?, find?, nameKey_asciiLower]

end Reckoner
