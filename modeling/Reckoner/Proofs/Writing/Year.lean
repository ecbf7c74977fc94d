import Reckoner.Proofs.Writing.Operation
import Reckoner.Proofs.Writing.Value

/-! # Years with a sign

The sign of a year is the token of a sum or a difference, but what stands in front of it, a day and a month
with points behind them, is no expression. So no operator takes a date with a signed year, and it can be
an operand of every operator that takes dates, since these bind looser than sums.
-/

namespace Reckoner

open PatternItem

/-- Day and month of a date, as they stand in front of the year. -/
def Date.front (date : Date) : List Char :=
  twoPlaces .zeros date.day ++ '.' :: (twoPlaces .zeros date.month ++ ['.'])

/-- A written date is its front and its year. -/
theorem Date.written_eq (date : Date) : date.written = date.front ++ yearPlaces .zeros date.year := by
  simp only [written, front, List.append_assoc, List.cons_append, List.nil_append]

/-- Day and month begin with a digit, end with a point and have nothing else in between. -/
theorem Date.front_spec (date : Date) : (∃ c rest, date.front = c :: rest ∧ c.isDigit = true) ∧
    (∃ front, date.front = front ++ ['.']) ∧ ∀ c ∈ date.front, Text.isClockChar c = true := by
  obtain ⟨⟨_, lastMonth⟩, _, lastDay, _⟩ := date.bounds
  have day := Text.counted_twoPlaces (n := date.day) (by omega)
  have month := Text.counted_twoPlaces (n := date.month) (by omega)
  refine ⟨?_, ⟨twoPlaces .zeros date.day ++ '.' :: twoPlaces .zeros date.month, ?_⟩, ?_⟩
  · obtain ⟨c, rest, same, digit⟩ := day.first
    exact ⟨c, _, by rw [front, same, List.cons_append], digit⟩
  · rw [front, List.append_assoc, List.cons_append]
  · refine List.forall_mem_append.mpr ⟨day.all, List.forall_mem_cons.mpr ⟨rfl, ?_⟩⟩
    exact List.forall_mem_append.mpr ⟨month.all, List.forall_mem_singleton.mpr rfl⟩

namespace Dialect

/-- A pattern of a date asks for a year behind day and month. -/
theorem readAll?_dateItems_front (date : Date) (items : List PatternItem) :
    readAll? (dateItems ++ items) date.front = none := by
  obtain ⟨⟨_, lastMonth⟩, _, lastDay, _⟩ := date.bounds
  rw [readAll?, fieldsOf?, Date.front, dateItems]
  simp only [List.cons_append, List.nil_append, List.map_cons]
  rw [inOrder_of_step (read_twoPlaces_of_set? (fun _ => rfl) (by omega) (Fields.set?_day date) _),
    inOrder_of_step (read_literal ..),
    inOrder_of_step (read_twoPlaces_of_set? (fun _ => rfl) (by omega) (Fields.set?_month date) _),
    inOrder_of_step (read_literal ..), inOrder_of_none rfl]

/-- A clock has no point behind the hour. -/
theorem readAll?_clock_front (date : Date) : readAll? clock date.front = none := by
  obtain ⟨_, _, lastDay, _⟩ := date.bounds
  rw [readAll?, fieldsOf?, Date.front, clock, List.map_cons, List.map_cons]
  rw [inOrder_twoPlaces_eq_none]
  · exact fun _ => rfl
  · omega
  · exact fun _ => inOrder_of_none rfl _

/-- The front of a date is neither a date nor a time. -/
theorem temporal?_front (date : Date) : standard.temporal? date.front = none := by
  have yearless := readAll?_dateItems_front date
  have yearlessToo := yearless []
  rw [List.append_nil] at yearlessToo
  simp only [temporal?, List.findSome?, Value.ofPattern?, pattern, ofPattern?_date,
    ofPattern?_moment, ofPattern?_time, bind, Option.bind, yearless, yearlessToo,
    readAll?_clock_front date]

/-- Day and month are a decimal fraction with a second point behind it. -/
theorem read?_front (date : Date) : Double.read? date.front = none := by
  obtain ⟨⟨_, lastMonth⟩, _, lastDay, _⟩ := date.bounds
  obtain ⟨a, b, days, first, second, _⟩ := twoPlaces_spec (n := date.day) (by omega)
  obtain ⟨d, e, months, third, fourth, _⟩ := twoPlaces_spec (n := date.month) (by omega)
  have pair {a b : Char} (first : a.isDigit = true) (second : b.isDigit = true) :
      ∀ c ∈ [a, b], c.isDigit = true :=
    List.forall_mem_cons.mpr ⟨first, List.forall_mem_singleton.mpr second⟩
  have point (rest : List Char) : ∀ c ∈ ('.' :: rest).head?, c.isDigit = false := fun c head =>
    Option.some.inj head ▸ rfl
  have whole := spanDigits_append (pair first second) (point ([d, e] ++ ['.']))
  have fraction := spanDigits_append (pair third fourth) (point [])
  rw [Date.front, days, months]
  show Double.read? (a :: b :: '.' :: ([d, e] ++ ['.'])) = none
  rw [Double.read?_of_isDigit first, Double.readDecimal?]
  rw [show a :: b :: '.' :: ([d, e] ++ ['.']) = [a, b] ++ '.' :: ([d, e] ++ ['.']) from rfl, whole]
  simp only [fraction]
  rfl

/-- The front of a date is no number. -/
theorem number?_front (date : Date) : standard.number? date.front = none := by
  obtain ⟨_, ⟨tail, ending⟩, _⟩ := date.front_spec
  have point : '.' ∈ date.front := ending ▸ List.mem_append_right tail (List.mem_singleton_self _)
  rw [number?, show standard.radix = 10 from rfl, Long.ofNumeral?_of_point 10 point, read?_front]
  rfl

/-- Day and month without a year are no literal. -/
theorem literal?_front (date : Date) : standard.literal? date.front = none := by
  obtain ⟨⟨c, rest, same, digit⟩, _⟩ := date.front_spec
  have unquoted : standard.quotedText? date.front = none := by
    rw [same, quotedText?, if_neg]
    rintro ⟨quote, _⟩
    rw [quote] at digit
    exact absurd digit (by decide)
  rw [literal?_of_isDigit ⟨c, rest, same, digit⟩, temporal?_front, number?_front, unquoted]
  rfl

end Dialect

namespace Text

/-- Characters of numerals, dates and times without signs are no delimiters. -/
theorem isDelimiter_of_isClockChar {c : Char} (clock : isClockChar c = true) :
    Dialect.standard.isDelimiter c = false := by
  refine Bool.eq_false_iff.mpr fun delimiter => ?_
  have among : c ∈ ['(', ')', '"'] := by
    simpa [Dialect.isDelimiter, Dialect.standard, or_assoc, or_comm, or_left_comm] using delimiter
  have other := not_isClockChar_of_mem (List.mem_append_left Library.cutters among)
  exact absurd clock (Bool.eq_false_iff.mp other)

end Text

/-! The text of a date with a sign in front of its year, and of the digits and points behind the sign. -/

namespace Date

variable (date : Date) {sign : Char} {back : List Char}

section Clock

variable (counted : Text.Counted back)

include counted

/-- Beside the sign, such a text has characters of numerals, dates and times only. -/
theorem forall_mem_signed :
    ∀ d ∈ date.front ++ sign :: back, d = sign ∨ Text.isClockChar d = true := by
  obtain ⟨_, _, clock⟩ := date.front_spec
  exact List.forall_mem_append.mpr ⟨fun d member => .inr (clock d member),
    List.forall_mem_cons.mpr ⟨.inl rfl, fun d member => .inr (counted.all d member)⟩⟩

/-- Around the sign of a year there are no other signs and no delimiters. -/
theorem not_mem_signed {d : Char} (other : d ∈ '(' :: ')' :: '"' :: Library.cutters)
    (unsigned : d ≠ sign) : d ∉ date.front ++ sign :: back := fun member =>
  (date.forall_mem_signed counted d member).elim unsigned fun clock =>
    absurd clock (Bool.eq_false_iff.mp (Text.not_isClockChar_of_mem other))

/-- Only the token that is the sign cuts the text. -/
theorem cut?_signed {token : List Char} (isToken : Dialect.standard.IsToken token)
    (cutting : ∀ d ∈ token, d ∈ Library.cutters) (absent : sign ∉ token) :
    Dialect.standard.cut? token (date.front ++ sign :: back) = none := by
  refine (Dialect.cut?_eq_none_iff isToken).mpr fun before after stands => ?_
  obtain ⟨d, member⟩ := List.exists_mem_of_ne_nil _ isToken.spelled
  refine date.not_mem_signed counted (List.mem_append_right ['(', ')', '"'] (cutting d member)) ?_
    (Dialect.mem_of_mem_surfaceFrom (stands.mem_surfaceChars isToken member))
  rintro rfl
  exact absent member

theorem tight_signed : Text.Tight (date.front ++ sign :: back) := by
  obtain ⟨⟨c, rest, same, digit⟩, _⟩ := date.front_spec
  obtain ⟨ending, d, rfl, digitToo⟩ := counted.last
  refine ⟨⟨c, rest ++ sign :: (ending ++ [d]), by rw [same, List.cons_append], ?_⟩,
    ⟨date.front ++ sign :: ending, d, by rw [List.append_assoc, List.cons_append], ?_⟩⟩
  · exact Text.isBlank_of_isWordChar (Text.isWordChar_of_isDigit digit)
  · exact Text.isBlank_of_isWordChar (Text.isWordChar_of_isDigit digitToo)

theorem getLast?_signed_ne {d : Char} (noDigit : d.isDigit = false) :
    (date.front ++ sign :: back).getLast? ≠ some d := by
  obtain ⟨ending, e, rfl, digit⟩ := counted.last
  rw [← List.cons_append, ← List.append_assoc, List.getLast?_concat]
  rintro equal
  rw [Option.some.inj equal, noDigit] at digit
  exact absurd digit Bool.false_ne_true

/-- A date with a signed year is balanced. -/
theorem balanced_signed (isSign : sign = '-' ∨ sign = '+') :
    Dialect.standard.Balanced (date.front ++ sign :: back) := by
  have plain : Dialect.standard.isDelimiter sign = false := by
    rcases isSign with rfl | rfl <;> decide
  exact Dialect.balanced_of_plain fun d member =>
    (date.forall_mem_signed counted d member).elim (fun same => same ▸ plain)
      Text.isDelimiter_of_isClockChar

end Clock

theorem head?_signed_ne {d : Char} (noDigit : d.isDigit = false) :
    (date.front ++ sign :: back).head? ≠ some d := by
  obtain ⟨⟨c, rest, same, digit⟩, _⟩ := date.front_spec
  rw [same]
  rintro equal
  rw [Option.some.inj equal, noDigit] at digit
  exact absurd digit Bool.false_ne_true

/-- At its own token such a text is cut behind day and month first. -/
theorem cut?_sign (isSign : sign = '-' ∨ sign = '+') (isToken : Dialect.standard.IsToken [sign]) :
    Dialect.standard.cut? [sign] (date.front ++ sign :: back) = some (date.front, back) := by
  obtain ⟨_, _, clock⟩ := date.front_spec
  have seam : Dialect.standard.cut? [sign] (date.front ++ []) = none := by
    rw [List.append_nil]
    refine (Dialect.cut?_eq_none_iff isToken).mpr fun before after stands => ?_
    have surface := stands.mem_surfaceChars isToken (List.mem_singleton_self sign)
    have cutter : sign ∈ Library.cutters := by rcases isSign with rfl | rfl <;> decide
    have other := Text.not_isClockChar_of_mem (List.mem_append_right ['(', ')', '"'] cutter)
    exact absurd (clock sign (Dialect.mem_of_mem_surfaceFrom surface)) (Bool.eq_false_iff.mp other)
  have surface : Dialect.standard.scan Nesting.surface date.front = Nesting.surface :=
    Dialect.scan_of_plain (fun d member => Text.isDelimiter_of_isClockChar (clock d member)) _
  have cut := Dialect.cut?_of_seam isToken date.front surface seam back
  rwa [List.append_assoc, List.singleton_append] at cut

end Date

namespace Engine.Legible

variable {engine : Engine} {base : Tag} (legible : engine.Legible base)

include legible

/-- Day and month without a year are no expression. -/
theorem parse_front (date : Date) (tree : Tree) : engine.parse date.front ≠ .ok tree := by
  have ordinary := legible.toOrdinary
  obtain ⟨⟨c, rest, same, digit⟩, ⟨tail, ending⟩, clock⟩ := date.front_spec
  have visible : Text.isBlank c = false := Text.isBlank_of_isWordChar (Text.isWordChar_of_isDigit digit)
  have trimmed : Text.trim date.front = date.front :=
    Text.Tight.trim_eq ⟨⟨c, rest, same, visible⟩, ⟨tail, '.', ending, by decide⟩⟩
  have free : '(' ∉ date.front := fun member => absurd (clock '(' member) (by decide)
  intro read
  have makes := makes_of_parse read
  rw [trimmed] at makes
  cases makes with
  | block enclosed =>
    rw [legible.bare_of_head? (Dialect.head?_ne_of_not_mem free)] at enclosed
    cases enclosed
  | name named =>
    rw [same, legible.uncounted digit rest] at named
    cases named
  | @operation before after entry operands entries _ takes =>
    have registered := ordinary.mem_operators entries
    obtain ⟨d, member⟩ := List.exists_mem_of_ne_nil _ entry.operator.kind.isToken.spelled
    have surface := OperatorEntry.mem_surfaceChars_of_takes ordinary registered takes d member
    have other := Text.not_isClockChar_of_mem
      (List.mem_append_right ['(', ')', '"'] (Library.mem_cutters d member))
    exact absurd (clock d (Dialect.mem_of_mem_surfaceFrom surface)) (Bool.eq_false_iff.mp other)
  | call called =>
    rw [call?, ordinary.dialect, Dialect.call?_eq_none free] at called
    cases called
  | literal written =>
    rw [ordinary.dialect, Dialect.literal?_front] at written
    cases written

section Signed

variable (date : Date) {sign : Char} {back : List Char} (isSign : sign = '-' ∨ sign = '+')
  (counted : Text.Counted back)

include isSign counted

/-- The operator whose token is the sign finds a fragment in front of it that is no expression, and the
other operators find no token. -/
theorem skips_signed {entry : OperatorEntry} (registered : entry ∈ Library.operators base) :
    entry.Skips engine (date.front ++ sign :: back) := by
  have ordinary := legible.toOrdinary
  cases unary : entry.operator.kind.isUnary with
  | true =>
    cases sort : entry.operator.kind with
    | not =>
      exact ordinary.skips_of_head? registered unary (by rw [sort]; rfl) (by rw [sort]; rfl)
        (date.head?_signed_ne (by decide))
    | square =>
      exact ordinary.skips_of_getLast? registered unary (by rw [sort]; rfl) (by rw [sort]; rfl)
        (date.getLast?_signed_ne counted (by decide))
    | negation =>
      exact ordinary.skips_of_head? registered unary (by rw [sort]; rfl) (by rw [sort]; rfl)
        (date.head?_signed_ne (by decide))
    | _ => rw [sort] at unary; exact absurd unary Bool.false_ne_true
  | false =>
    by_cases token : entry.operator.kind.token = [sign]
    · rintro operands ⟨⟨parts, split, read⟩, _⟩
      have isToken : Dialect.standard.IsToken [sign] := token ▸ entry.operator.kind.isToken
      rw [ordinary.dialect, OperatorEntry.fragments?_of_between registered unary, token,
        Dialect.split?, date.cut?_sign isSign isToken] at split
      obtain rfl := Option.some.inj split
      obtain ⟨operand, _, success⟩ := exists_operand_of_readsAll read (List.mem_cons_self ..)
      exact legible.parse_front date operand success
    · refine ordinary.skips_of_cut? registered unary (date.cut?_signed counted
        entry.operator.kind.isToken (fun _ => Library.mem_cutters _) fun member => token ?_)
      have all : ∀ pair ∈ Library.levels, ∀ sign ∈ ['-', '+'], sign ∈ pair.2 → pair.2 = [sign] := by
        decide
      exact all _ (Library.mem_levels unary) sign (by simpa using isSign) member

/-- A date with a sign in front of its year is read as the literal that it denotes. -/
theorem parse_signed {value : Value}
    (denotes : Dialect.standard.literal? (date.front ++ sign :: back) = some value) :
    engine.parse (date.front ++ sign :: back) = .ok (.ofValue value) := by
  have ordinary := legible.toOrdinary
  obtain ⟨⟨c, rest, same, digit⟩, _⟩ := date.front_spec
  have trimmed : Text.trim (date.front ++ sign :: back) = date.front ++ sign :: back :=
    (date.tight_signed counted).trim_eq
  have free : '(' ∉ date.front ++ sign :: back :=
    date.not_mem_signed counted (List.mem_cons_self ..) (by rcases isSign with rfl | rfl <;> decide)
  refine parse_literal (legible.bare_of_head? ?_) ?_ ?_ ?_ ?_
  · rw [trimmed]
    exact Dialect.head?_ne_of_not_mem free
  · rw [trimmed, same]
    exact legible.uncounted digit _
  · rw [trimmed, ordinary.operators]
    exact fun _ registered => legible.skips_signed date isSign counted registered
  · rw [trimmed, call?, ordinary.dialect, Dialect.call?_eq_none free]
    rfl
  · rw [trimmed, ordinary.dialect, denotes]

/-- A date with a sign in front of its year is written and read back, with a time behind it or not. -/
theorem writes_of_front {value : Value} (signed : value.hasSignedYear = true)
    (written : Dialect.standard.literalText value.kind value = .ok (date.front ++ sign :: back))
    (denotes : Dialect.standard.literal? (date.front ++ sign :: back) = some value) :
    ∃ text, engine.format (.literal value.kind value) = .ok text ∧
      engine.Writes (.literal value.kind value) text := by
  have read := legible.parse_signed date isSign counted denotes
  have level : (Tree.literal value.kind value).level = 9 := by rw [Tree.level, if_pos signed]
  refine ⟨_, by rw [format, legible.toOrdinary.dialect, written], ⟨⟨_, read, rfl⟩,
    date.balanced_signed counted isSign, date.tight_signed counted, ?_⟩, ?_, ?_, ?_, ?_⟩
  · exact date.cut?_signed counted Dialect.isToken_separator (by decide)
      (by rcases isSign with rfl | rfl <;> decide)
  · intro operator between below _ _
    rw [level] at below
    refine date.cut?_signed counted operator.isToken (fun _ => Library.mem_cutters _) ?_
    have all : ∀ pair ∈ Library.levels, pair.1 < 9 → ∀ sign ∈ ['-', '+'], sign ∉ pair.2 := by decide
    exact all _ (Library.mem_levels between) below sign (by simpa using isSign)
  · exact fun _ => date.head?_signed_ne (by decide)
  · exact fun _ => date.getLast?_signed_ne counted (by decide)
  · rw [level]
    exact fun leaf => absurd leaf (by decide)

end Signed

/-- Dates and moments with a signed year are written and read back, if no fraction of a second is lost. -/
theorem writes_signedYear {value : Value} (signed : value.hasSignedYear = true)
    (whole : ∀ moment, value = .dateTime moment → moment.time.fraction = 0) :
    ∃ text, engine.format (.literal value.kind value) = .ok text ∧
      engine.Writes (.literal value.kind value) text := by
  have split (date : Date) (signed : date.isUnsigned = false) : ∃ sign run,
      date.written = date.front ++ sign :: run ∧ (sign = '-' ∨ sign = '+') ∧ Text.Counted run := by
    obtain ⟨sign, run, same, isSign, spelled, digits, _⟩ := yearPlaces_spec date.year
    have counted := Text.counted_of_digits spelled digits
    rw [Date.written_eq, same]
    split at isSign
    · exact ⟨'-', run, by rw [isSign, List.singleton_append], .inl rfl, counted⟩
    · split at isSign
      · exact ⟨'+', run, by rw [isSign, List.singleton_append], .inr rfl, counted⟩
      · rw [Date.isUnsigned, Bool.and_eq_false_iff, decide_eq_false_iff_not,
          decide_eq_false_iff_not] at signed
        omega
  have denotes {text : List Char} {date : Date} {rest : List Char} (same : text = date.front ++ rest)
      (temporal : Dialect.standard.temporal? text = some value) :
      Dialect.standard.literal? text = some value := by
    obtain ⟨⟨c, tail, front, digit⟩, _⟩ := date.front_spec
    rw [Dialect.literal?_of_isDigit ⟨c, tail ++ rest, by rw [same, front, List.cons_append], digit⟩,
      temporal]
    rfl
  cases value with
  | date day =>
    rw [Value.hasSignedYear, Bool.not_eq_true'] at signed
    obtain ⟨sign, run, same, isSign, counted⟩ := split day signed
    refine legible.writes_of_front day isSign counted (by rw [Value.hasSignedYear, signed]; rfl) ?_ ?_
    · rw [Dialect.literalText_kind, Dialect.valueText_date, same]
    · exact denotes rfl (same ▸ Dialect.temporal?_date)
  | dateTime moment =>
    rw [Value.hasSignedYear, Bool.not_eq_true'] at signed
    obtain ⟨sign, run, same, isSign, counted⟩ := split moment.date signed
    have timed : Text.Counted (run ++ ' ' :: moment.time.written) :=
      counted.append moment.time.counted_written rfl
    have text : moment.date.written ++ ' ' :: moment.time.written =
        moment.date.front ++ sign :: (run ++ ' ' :: moment.time.written) := by
      rw [same, List.append_assoc, List.cons_append]
    refine legible.writes_of_front moment.date isSign timed (by rw [Value.hasSignedYear, signed]; rfl) ?_ ?_
    · rw [Dialect.literalText_kind, Dialect.valueText_moment, text]
    · exact denotes rfl (text ▸ Dialect.temporal?_moment (whole moment rfl))
  | _ => exact absurd signed Bool.false_ne_true

end Engine.Legible

end Reckoner
