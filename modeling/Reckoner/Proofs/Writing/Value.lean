import Reckoner.Proofs.Calendar.Standard
import Reckoner.Proofs.Number.Decimal
import Reckoner.Proofs.Writing.Atom

/-! # Numbers, dates and times read back

Besides the plain literals there are the doubles without a sign and the dates and times without a fraction
of a second and without a sign in the year. They are written in digits with points, colons and blanks among
them, which makes solid texts that nothing is named by.
-/

namespace Reckoner

namespace Text

/-- The characters of numerals, dates and times without signs. -/
def isClockChar (c : Char) : Bool := c.isDigit || c == '.' || c == ':' || c == ' '

/-- The text begins and ends with a digit and has points, colons and blanks at most in between. -/
structure Counted (text : List Char) : Prop where
  first : ∃ c rest, text = c :: rest ∧ c.isDigit = true
  last : ∃ front c, text = front ++ [c] ∧ c.isDigit = true
  all : ∀ c ∈ text, isClockChar c = true

theorem isClockChar_of_isDigit {c : Char} (digit : c.isDigit = true) : isClockChar c = true := by
  rw [isClockChar, digit]
  rfl

/-- None of the characters of dates and times is a bracket, a quote or a cutter. -/
theorem not_isClockChar_of_mem {c : Char} (other : c ∈ '(' :: ')' :: '"' :: Library.cutters) :
    isClockChar c = false := by
  revert c
  decide

/-- A run of digits is counted. -/
theorem counted_of_digits {text : List Char} (spelled : text ≠ [])
    (digits : ∀ c ∈ text, c.isDigit = true) : Counted text where
  first := by
    obtain ⟨c, rest, rfl⟩ := List.exists_cons_of_ne_nil spelled
    exact ⟨c, rest, rfl, digits c (List.mem_cons_self ..)⟩
  last := ⟨_, _, (List.dropLast_append_getLast spelled).symm, digits _ (List.getLast_mem spelled)⟩
  all := fun c member => isClockChar_of_isDigit (digits c member)

theorem counted_twoPlaces {n : Nat} (small : n < 100) : Counted (PatternItem.twoPlaces .zeros n) := by
  obtain ⟨c, d, same, first, second, _⟩ := PatternItem.twoPlaces_spec small
  rw [same]
  exact counted_of_digits (List.cons_ne_nil _ _)
    (List.forall_mem_cons.mpr ⟨first, List.forall_mem_singleton.mpr second⟩)

namespace Counted

variable {text : List Char} (counted : Counted text)

include counted

/-- Counted texts around a mark are counted. -/
theorem append {back : List Char} {mark : Char} (countedToo : Counted back)
    (between : isClockChar mark = true) : Counted (text ++ mark :: back) where
  first := by
    obtain ⟨c, rest, rfl, digit⟩ := counted.first
    exact ⟨c, _, rfl, digit⟩
  last := by
    obtain ⟨front, c, rfl, digit⟩ := countedToo.last
    exact ⟨text ++ mark :: front, c, by rw [List.append_assoc, List.cons_append], digit⟩
  all := List.forall_mem_append.mpr ⟨counted.all, List.forall_mem_cons.mpr ⟨between, countedToo.all⟩⟩

/-- A counted text has no bracket, no quote and no cutter. -/
theorem not_mem {c : Char} (other : c ∈ '(' :: ')' :: '"' :: Library.cutters) : c ∉ text := fun member =>
  absurd (counted.all c member) (Bool.eq_false_iff.mp (not_isClockChar_of_mem other))

/-- A counted text is solid. -/
theorem solid : Solid text where
  balanced := Dialect.balanced_of_plain fun c member => by
    have delimiters : Dialect.standard.isDelimiter c = true → c ∈ '(' :: ')' :: '"' :: Library.cutters := by
      intro delimiter
      have among : c ∈ ['(', ')', '"'] := by
        simpa [Dialect.isDelimiter, Dialect.standard, or_assoc, or_comm, or_left_comm] using delimiter
      exact List.mem_append_left Library.cutters among
    exact Bool.eq_false_iff.mpr fun delimiter => counted.not_mem (delimiters delimiter) member
  tight := by
    obtain ⟨c, rest, same, digit⟩ := counted.first
    obtain ⟨front, d, ending, digitToo⟩ := counted.last
    exact ⟨⟨c, rest, same, isBlank_of_isWordChar (isWordChar_of_isDigit digit)⟩,
      ⟨front, d, ending, isBlank_of_isWordChar (isWordChar_of_isDigit digitToo)⟩⟩
  silent := fun c member cutter =>
    counted.not_mem (List.mem_append_right ['(', ')', '"'] cutter) (Dialect.mem_of_mem_surfaceFrom member)

/-- Nothing is named by a counted text. -/
theorem unnamed : Unnamed text := by
  have free := counted.not_mem (c := '(') (List.mem_cons_self ..)
  obtain ⟨c, rest, rfl, digit⟩ := counted.first
  exact .digit digit free

end Counted

end Text

/-- A text with a digit in front is no spelling of a truth value or of null. -/
theorem Dialect.literal?_of_isDigit {text : List Char}
    (first : ∃ c rest, text = c :: rest ∧ c.isDigit = true) : standard.literal? text =
      (standard.temporal? text).or ((standard.number? text).or
        ((standard.quotedText? text).map fun text => .string (String.ofList text))) := by
  obtain ⟨c, rest, rfl, digit⟩ := first
  rw [literal?, sameSpelling_of_isDigit digit (by decide), sameSpelling_of_isDigit digit (by decide),
    sameSpelling_of_isDigit digit (by decide)]
  rfl

open Text (Counted)

namespace Double

/-- A text with a digit in front is no infinity, no NaN and has no sign. -/
theorem read?_of_isDigit {c : Char} (digit : c.isDigit = true) (rest : List Char) :
    read? (c :: rest) = readDecimal? (c :: rest) := by
  have wordless {d : Char} {word : List Char} (letter : d.isDigit = false) :
      (c :: rest).map Char.toLower ≠ d :: word := by
    rw [List.map_cons, Text.toLower_of_isDigit digit]
    rintro equal
    rw [(List.cons.inj equal).1, letter] at digit
    exact absurd digit Bool.false_ne_true
  unfold read?
  split
  · next start => exact absurd ((List.cons.inj start).1 ▸ digit) (by decide)
  · next start => exact absurd ((List.cons.inj start).1 ▸ digit) (by decide)
  · rw [readSize?, if_neg (wordless (by decide)),
      if_neg (not_or_intro (wordless (by decide)) (wordless (by decide)))]

variable {x : Double} (finite : x.isFinite = true) (unsigned : x.isNegative = false)

include finite unsigned

theorem counted_literalText : Counted x.literalText := by
  obtain ⟨whole, fraction, same, ⟨spelled, spelledToo⟩, before, behind, _⟩ :=
    exists_literalText finite unsigned
  rw [same]
  exact (Text.counted_of_digits spelled before).append (Text.counted_of_digits spelledToo behind) rfl

/-- A number with digits behind its point is no long. -/
theorem number?_literalText : Dialect.standard.number? x.literalText = some (.double x) := by
  obtain ⟨whole, fraction, same, ⟨spelled, _⟩, before, _, read⟩ := exists_literalText finite unsigned
  have point : '.' ∈ x.literalText := same ▸ List.mem_append_right whole (List.mem_cons_self ..)
  have fractional := Long.ofNumeral?_of_point 10 point
  have number : read? x.literalText = some x := by
    obtain ⟨c, rest, head⟩ := List.exists_cons_of_ne_nil spelled
    have digit := before c (head ▸ List.mem_cons_self ..)
    rw [head, List.cons_append] at same
    rw [same] at read ⊢
    exact (read?_of_isDigit digit _).trans read
  rw [Dialect.number?, show Dialect.standard.radix = 10 from rfl, fractional, number]
  rfl

/-- A number has one point and no colon, where dates and times have two. -/
theorem temporal?_literalText : Dialect.standard.temporal? x.literalText = none := by
  obtain ⟨whole, fraction, same, _, before, behind, _⟩ := exists_literalText finite unsigned
  cases temporal : Dialect.standard.temporal? x.literalText with
  | none => rfl
  | some value =>
    obtain ⟨_, _, mark, isMark, twice⟩ := Dialect.isPlainChar_or_isSign_of_temporal? temporal
    have noDigit : ∀ mark ∈ ['.', ':'], mark.isDigit = false := by decide
    have absent {text : List Char} (digits : ∀ c ∈ text, c.isDigit = true) : text.count mark = 0 :=
      List.count_eq_zero.mpr fun member =>
        absurd (digits mark member) (Bool.eq_false_iff.mp (noDigit mark isMark))
    rw [same, List.count_append, List.count_cons, absent before, absent behind] at twice
    split at twice <;> omega

/-- A decimal is read back as the double that it was written for. -/
theorem literal?_literalText : Dialect.standard.literal? x.literalText = some (.double x) := by
  rw [Dialect.literal?_of_isDigit (counted_literalText finite unsigned).first, temporal?_literalText finite unsigned,
    number?_literalText finite unsigned]
  rfl

end Double

/-- A date without a signed year is counted. -/
theorem Date.counted_written {date : Date} (unsigned : date.isUnsigned = true) :
    Counted date.written := by
  obtain ⟨⟨_, lastMonth⟩, _, lastDay, _⟩ := date.bounds
  rw [isUnsigned, Bool.and_eq_true, decide_eq_true_eq, decide_eq_true_eq] at unsigned
  obtain ⟨sign, run, same, isSign, spelled, digits, _⟩ := PatternItem.yearPlaces_spec date.year
  have signless : sign = [] := by rw [isSign, if_neg (by omega), if_neg (by omega)]
  rw [signless, List.nil_append] at same
  rw [written, same]
  exact (Text.counted_twoPlaces (by omega)).append ((Text.counted_twoPlaces (by omega)).append
    (Text.counted_of_digits spelled digits) rfl) rfl

theorem Time.counted_written (time : Time) : Counted time.written := by
  obtain ⟨lastHour, lastMinute, _⟩ := time.exists_time
  have lastSecond := time.shownSecond_le
  exact (Text.counted_twoPlaces (by omega)).append ((Text.counted_twoPlaces (by omega)).append
    (Text.counted_twoPlaces (by omega)) rfl) rfl

/-- The value is written without any sign and without loss. -/
def Value.isSpelled : Value → Bool
  | .double x => x.isFinite && !x.isNegative
  | .date day => day.isUnsigned
  | .time clock => clock.fraction == 0
  | .dateTime moment => moment.date.isUnsigned && moment.time.fraction == 0
  | value => value.isPlain

namespace Dialect

open Text (Solid Unnamed)

/-- What is written for a value without any sign and without loss is solid, names nothing, and reads as
that value. -/
theorem literal?_of_isSpelled {value : Value} (spelled : value.isSpelled = true) :
    ∃ text, standard.literalText value.kind value = .ok text ∧ Solid text ∧ Unnamed text ∧
      standard.literal? text = some value := by
  have counted {text : List Char} (counted : Counted text)
      (written : standard.valueText value = .ok text) (denotes : standard.literal? text = some value) :
      ∃ text, standard.literalText value.kind value = .ok text ∧ Solid text ∧ Unnamed text ∧
        standard.literal? text = some value :=
    ⟨text, (literalText_kind value).trans written, counted.solid, counted.unnamed, denotes⟩
  have timed {text : List Char} (counted : Counted text)
      (temporal : standard.temporal? text = some value) : standard.literal? text = some value := by
    rw [literal?_of_isDigit counted.first, temporal]
    rfl
  cases value with
  | double x =>
    rw [Value.isSpelled, Bool.and_eq_true, Bool.not_eq_true'] at spelled
    obtain ⟨finite, unsigned⟩ := spelled
    exact counted (Double.counted_literalText finite unsigned) rfl
      (Double.literal?_literalText finite unsigned)
  | date date =>
    have shape := Date.counted_written spelled
    exact counted shape valueText_date (timed shape temporal?_date)
  | time time =>
    have shape := time.counted_written
    exact counted shape valueText_time (timed shape (temporal?_time (beq_iff_eq.mp spelled)))
  | dateTime moment =>
    rw [Value.isSpelled, Bool.and_eq_true, beq_iff_eq] at spelled
    obtain ⟨unsigned, whole⟩ := spelled
    have shape : Counted (moment.date.written ++ ' ' :: moment.time.written) :=
      (Date.counted_written unsigned).append moment.time.counted_written rfl
    exact counted shape valueText_moment (timed shape (temporal?_moment whole))
  | null | boolean | long | string => exact literal?_of_isPlain spelled

end Dialect

end Reckoner
