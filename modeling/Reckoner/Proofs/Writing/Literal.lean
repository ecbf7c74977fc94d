import Reckoner.Proofs.Writing.Name
import Reckoner.Proofs.Writing.Numeral
import Reckoner.Proofs.Writing.Solid

/-! # Literals read back

The truth values, null, the longs without a sign and the texts without quotes are written as solid texts,
and each of these reads as the value that it was written for.
-/

namespace Reckoner

/-- A literal for the value is one solid text. -/
def Value.isPlain : Value → Bool
  | .null | .boolean _ => true
  | .long n => decide (0 ≤ n.val)
  | .string text => !text.toList.contains '"'
  | _ => false

/-- A year of four digits is written without a sign. -/
def Date.isUnsigned (date : Date) : Bool := 0 ≤ date.year && date.year ≤ 9999

/-- The value is a date or a moment whose year is written with a sign. -/
def Value.hasSignedYear : Value → Bool
  | .date day => !day.isUnsigned
  | .dateTime moment => !moment.date.isUnsigned
  | _ => false

theorem Value.hasSignedYear_of_isPlain {value : Value} (plain : value.isPlain = true) :
    value.hasSignedYear = false := by
  cases value with
  | date | dateTime => exact absurd plain Bool.false_ne_true
  | _ => rfl

/-- A text that nothing is named by: a word for a truth value or null, a text with a digit in front, a
text in quotes. -/
inductive Text.Unnamed : List Char → Prop
  | word {text : List Char} (word : ∀ c ∈ text, isWordChar c = true)
    (literal : nameKey text ∈ Engine.literalKeys) : Unnamed text
  | digit {c : Char} {rest : List Char} (digit : c.isDigit = true) (free : '(' ∉ c :: rest) :
    Unnamed (c :: rest)
  | quoted (rest : List Char) : Unnamed ('"' :: rest)

namespace Dialect

open Text (Solid Unnamed)

/-- A literal of its own kind is written as its value. -/
theorem literalText_kind (value : Value) :
    standard.literalText value.kind value = standard.valueText value := by
  rw [literalText, declared, Value.coerce_kind]
  split <;> rfl

/-- A text with a digit in front is none of the spellings of truth values and null. -/
theorem sameSpelling_of_isDigit {c : Char} {rest spelling : List Char} (digit : c.isDigit = true)
    (letters : ∀ d ∈ spelling, d.isDigit = false ∧ d.toLower = d) :
    Text.sameSpelling (c :: rest) spelling = false := by
  refine Bool.eq_false_iff.mpr fun same => ?_
  have member : c ∈ Text.asciiLower spelling := by
    rw [← beq_iff_eq.mp same, Text.asciiLower, List.map_cons, Text.toLower_of_isDigit digit]
    exact List.mem_cons_self ..
  obtain ⟨d, inside, sameChar⟩ := List.mem_map.mp member
  obtain ⟨noDigit, unchanged⟩ := letters d inside
  rw [← sameChar, unchanged] at digit
  exact absurd digit (Bool.eq_false_iff.mp noDigit)

/-- Digits alone are no date and no time. -/
theorem temporal?_of_digits {text : List Char} (digits : ∀ c ∈ text, c.isDigit = true) :
    standard.temporal? text = none := by
  cases temporal : standard.temporal? text with
  | none => rfl
  | some value =>
    obtain ⟨_, _, mark, isMark, twice⟩ := isPlainChar_or_isSign_of_temporal? temporal
    have member : mark ∈ text := List.count_pos_iff.mp (Nat.lt_of_lt_of_le Nat.zero_lt_two twice)
    have marks : ∀ mark ∈ ['.', ':'], mark.isDigit = false := by decide
    exact absurd (digits mark member) (Bool.eq_false_iff.mp (marks mark isMark))

/-- A numeral of digits is no spelling of truth values or null, and no date or time. -/
theorem literal?_of_digits {text : List Char} {value : Value} (spelled : text ≠ [])
    (digits : ∀ c ∈ text, c.isDigit = true) (number : standard.number? text = some value) :
    standard.literal? text = some value := by
  obtain ⟨c, rest, rfl⟩ := List.exists_cons_of_ne_nil spelled
  have here := digits c (List.mem_cons_self ..)
  rw [literal?, sameSpelling_of_isDigit here (by decide), sameSpelling_of_isDigit here (by decide),
    sameSpelling_of_isDigit here (by decide), temporal?_of_digits digits, number]
  rfl

/-- A text between quotes is no literal of any other kind. -/
theorem literal?_of_quoted {inner : List Char} (hidden : '"' ∉ inner) :
    standard.literal? ('"' :: inner ++ ['"']) = some (.string (String.ofList inner)) := by
  have quote : '"' ∈ '"' :: inner ++ ['"'] := List.mem_cons_self ..
  have wordless {spelling : List Char} (word : ∀ c ∈ spelling, Text.isWordChar c = true) :
      Text.sameSpelling ('"' :: inner ++ ['"']) spelling = false := Bool.eq_false_iff.mpr fun same =>
    absurd (Text.isWordChar_of_sameSpelling same word '"' quote) (by decide)
  have strange : ¬ (Text.isPlainChar '"' = true ∨ Text.isSign '"' = true) := by decide
  have timeless : standard.temporal? ('"' :: inner ++ ['"']) = none := by
    cases temporal : standard.temporal? ('"' :: inner ++ ['"']) with
    | none => rfl
    | some value => exact absurd ((isPlainChar_or_isSign_of_temporal? temporal).1 '"' quote) strange
  have countless : standard.number? ('"' :: inner ++ ['"']) = none := by
    cases number : standard.number? ('"' :: inner ++ ['"']) with
    | none => rfl
    | some value => exact absurd ((isPlainChar_or_isSign_of_number? number).1 '"' quote) strange
  rw [literal?, wordless (by decide), wordless (by decide), wordless (by decide), timeless, countless,
    Text.quotedText?_eq_some hidden]
  rfl

/-- What is written for a plain value is solid, names nothing, and reads as that value. -/
theorem literal?_of_isPlain {value : Value} (plain : value.isPlain = true) :
    ∃ text, standard.literalText value.kind value = .ok text ∧ Solid text ∧ Unnamed text ∧
      standard.literal? text = some value := by
  have worded {text : List Char} (spelled : text ≠ []) (word : ∀ c ∈ text, Text.isWordChar c = true)
      (literal : nameKey text ∈ Engine.literalKeys) : Solid text ∧ Unnamed text :=
    ⟨Text.solid_of_word spelled word, .word word literal⟩
  rw [literalText_kind]
  simp only [← and_assoc (a := Solid _)]
  cases value with
  | null => exact ⟨_, rfl, worded (by decide) (by decide) (by decide), by decide⟩
  | boolean truth =>
    cases truth with
    | true => exact ⟨_, rfl, worded (by decide) (by decide) (by decide), by decide⟩
    | false => exact ⟨_, rfl, worded (by decide) (by decide) (by decide), by decide⟩
  | long n =>
    have unsigned : 0 ≤ n.val := of_decide_eq_true plain
    have digits := Long.isDigit_of_mem_numeral unsigned
    have read := Long.ofNumeral?_numeral 10 n
    have spelled : n.numeral 10 ≠ [] := fun empty => absurd (empty ▸ read) nofun
    refine ⟨n.numeral 10, rfl, ⟨Text.solid_of_word spelled fun c member => ?_, ?_⟩, ?_⟩
    · exact Text.isWordChar_of_isDigit (digits c member)
    · obtain ⟨c, rest, same⟩ := List.exists_cons_of_ne_nil spelled
      rw [same] at digits ⊢
      exact .digit (digits c (List.mem_cons_self ..)) fun member => absurd (digits '(' member) (by decide)
    · refine literal?_of_digits spelled digits ?_
      rw [number?, show standard.radix = 10 from rfl, read]
      rfl
  | string text =>
    have hidden : '"' ∉ text.toList := by
      rw [Value.isPlain, Bool.not_eq_true', ← Bool.not_eq_true, List.contains_iff_mem] at plain
      exact plain
    refine ⟨_, rfl, ⟨Text.solid_of_quoted hidden, .quoted _⟩, ?_⟩
    have whole := literal?_of_quoted hidden
    rwa [String.ofList_toList] at whole
  | _ => exact absurd plain Bool.false_ne_true

end Dialect

end Reckoner
