import Reckoner.Proofs.Source.Literal
import Reckoner.Proofs.Source.Token
import Reckoner.Proofs.Text.AsciiCase

/-! # Literals in letters of either case

Digits beyond nine, exponents and the numbers that are spelled out may be written in letters of either
case, and dates and times have no letters. What a number or a date denotes does not depend on case, then.
-/

namespace Reckoner

open Text (asciiLower asciiLower_cons toLower_eq_iff)

/-- A reader that looks for a sign first does not depend on case if what it makes of the rest does not. -/
theorem Text.signed_asciiLower {α : Type} {read minus plus bare : List Char → α}
    (negative : ∀ rest, read ('-' :: rest) = minus rest) (positive : ∀ rest, read ('+' :: rest) = plus rest)
    (unsigned : ∀ text, (∀ rest, text = '-' :: rest → False) → (∀ rest, text = '+' :: rest → False) →
      read text = bare text)
    (minusCaseless : ∀ rest, minus (asciiLower rest) = minus rest)
    (plusCaseless : ∀ rest, plus (asciiLower rest) = plus rest)
    (bareCaseless : ∀ rest, bare (asciiLower rest) = bare rest) (text : List Char) :
    read (asciiLower text) = read text := by
  cases text with
  | nil => rfl
  | cons c rest =>
    by_cases isMinus : c = '-'
    · subst isMinus
      exact (negative _).trans ((minusCaseless rest).trans (negative rest).symm)
    by_cases isPlus : c = '+'
    · subst isPlus
      exact (positive _).trans ((plusCaseless rest).trans (positive rest).symm)
    have lowered : read (asciiLower (c :: rest)) = bare (asciiLower (c :: rest)) := by
      refine unsigned _ (fun _ same => isMinus ?_) (fun _ same => isPlus ?_)
      · exact (toLower_eq_iff rfl).mp (List.cons.inj same).1
      · exact (toLower_eq_iff rfl).mp (List.cons.inj same).1
    rw [lowered, bareCaseless, unsigned]
    · exact fun _ same => isMinus (List.cons.inj same).1
    · exact fun _ same => isPlus (List.cons.inj same).1

namespace Numeral

theorem digitValue?_toLower (c : Char) : digitValue? c.toLower = digitValue? c :=
  Text.apply_toLower digitValue? (by decide +kernel) c

/-- Digits in either case are the same digits. -/
theorem readOnto?_asciiLower (radix value : Nat) (text : List Char) :
    readOnto? radix value (asciiLower text) = readOnto? radix value text := by
  induction text generalizing value with
  | nil => rfl
  | cons c rest ih => simp only [asciiLower_cons, readOnto?, digitValue?_toLower, ih]

theorem readNat?_asciiLower (radix : Nat) (text : List Char) :
    readNat? radix (asciiLower text) = readNat? radix text := by
  rw [readNat?, readNat?, readOnto?_asciiLower, asciiLower, List.isEmpty_map]

/-- A numeral denotes the same integer in either case. -/
theorem readInt?_asciiLower (radix : Nat) (text : List Char) :
    readInt? radix (asciiLower text) = readInt? radix text := by
  refine Text.signed_asciiLower (readInt?.eq_1 radix) (readInt?.eq_2 radix) (readInt?.eq_3 radix) ?_ ?_ ?_ text
  all_goals
    intro rest
    simp only [readNat?_asciiLower]

end Numeral

theorem spanDigits_asciiLower (text : List Char) :
    spanDigits (asciiLower text) = ((spanDigits text).1, asciiLower (spanDigits text).2) := by
  have digits : asciiLower (text.takeWhile Char.isDigit) = text.takeWhile Char.isDigit :=
    Text.asciiLower_eq_self fun c member => Text.toLower_of_isDigit (List.mem_takeWhile_imp member)
  rw [spanDigits, Text.takeWhile_asciiLower Text.isDigit_toLower,
    Text.dropWhile_asciiLower Text.isDigit_toLower, digits, spanDigits]

namespace Double

theorem readExponent?_asciiLower (text : List Char) : readExponent? (asciiLower text) = readExponent? text := by
  have digits (rest : List Char) :
      (if !(asciiLower rest).isEmpty && (asciiLower rest).all Char.isDigit then
        some (digitsValue (asciiLower rest) : Int) else none) =
      if !rest.isEmpty && rest.all Char.isDigit then some (digitsValue rest : Int) else none := by
    by_cases all : rest.all Char.isDigit = true
    · rw [Text.asciiLower_eq_self fun c member => Text.toLower_of_isDigit (List.all_eq_true.mp all c member)]
    · have others : (asciiLower rest).all Char.isDigit = rest.all Char.isDigit := by
        rw [asciiLower, List.all_map]
        exact congrArg (List.all rest) (funext Text.isDigit_toLower)
      rw [others, Bool.eq_false_iff.mpr all, Bool.and_false, Bool.and_false]
      rfl
  refine Text.signed_asciiLower readExponent?.eq_1 readExponent?.eq_2 readExponent?.eq_3 ?_ ?_ ?_ text
  · exact fun rest => congrArg (Option.map (- ·)) (digits rest)
  · exact digits
  · exact digits

theorem readDecimal?_asciiLower (text : List Char) : readDecimal? (asciiLower text) = readDecimal? text := by
  have isMark (mark : Char) : mark.toLower = 'e' ∨ mark.toLower = 'E' ↔ mark = 'e' ∨ mark = 'E' :=
    decide_eq_decide.mp (Text.apply_toLower (fun c => decide (c = 'e' ∨ c = 'E')) (by decide +kernel) mark)
  have isPoint (c : Char) : c.toLower = '.' ↔ c = '.' := toLower_eq_iff rfl
  simp only [readDecimal?, spanDigits_asciiLower]
  generalize (spanDigits text).1 = whole, (spanDigits text).2 = behind
  cases behind with
  | nil => rfl
  | cons c more =>
    by_cases point : c = '.'
    · subst point
      simp only [asciiLower_cons, show '.'.toLower = '.' from rfl, spanDigits_asciiLower]
      cases (spanDigits more).2 with
      | nil => rfl
      | cons mark more => simp only [asciiLower_cons, isMark, readExponent?_asciiLower]
    · simp [asciiLower_cons, isPoint, isMark, point, readExponent?_asciiLower]

theorem readSize?_asciiLower (text : List Char) : readSize? (asciiLower text) = readSize? text := by
  have spelling : (asciiLower text).map Char.toLower = text.map Char.toLower := Text.asciiLower_asciiLower text
  rw [readSize?, readSize?, spelling, readDecimal?_asciiLower]

/-- A double may be written in either case. -/
theorem read?_asciiLower (text : List Char) : read? (asciiLower text) = read? text := by
  refine Text.signed_asciiLower read?.eq_1 read?.eq_2 read?.eq_3 ?_ readSize?_asciiLower
    readSize?_asciiLower text
  exact fun rest => congrArg (Option.map neg) (readSize?_asciiLower rest)

end Double

namespace Dialect

/-- A number may be written in either case. -/
theorem number?_asciiLower (dialect : Dialect) (text : List Char) :
    dialect.number? (asciiLower text) = dialect.number? text := by
  rw [number?, number?, Double.read?_asciiLower, Long.ofNumeral?, Numeral.readInt?_asciiLower, Long.ofNumeral?]

/-- Dates and times have no letters, so a text with letters denotes none in either case. -/
theorem temporal?_asciiLower (text : List Char) :
    standard.temporal? (asciiLower text) = standard.temporal? text := by
  have letterless {text : List Char} {value : Value} (success : standard.temporal? text = some value) :
      ∀ c ∈ text, c.isAlpha = false :=
    (forall_of_temporal? success Text.isAlpha_of_isBlank Text.isAlpha_of_isDigit (by decide)).1
  by_cases all : ∀ c ∈ text, c.isAlpha = false
  · rw [Text.asciiLower_eq_self fun c member => (toLower_eq_iff (all c member)).mpr rfl]
  · rw [Option.eq_none_iff_forall_ne_some.mpr fun value success => all (letterless success)]
    refine Option.eq_none_iff_forall_ne_some.mpr fun value success => all fun c member => ?_
    rw [← Text.isAlpha_toLower]
    exact letterless success _ (List.mem_map_of_mem member)

end Dialect

end Reckoner
