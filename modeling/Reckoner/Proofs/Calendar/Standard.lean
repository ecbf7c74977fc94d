import Reckoner.Dialect.Literal
import Reckoner.Proofs.Number.Digits
import Reckoner.Proofs.Outcome

/-! # Dates and times read back

In the standard patterns a date is two digits for the day, two for the month and the year, a time three
times two digits. Reading goes through the text number by number and mark by mark, and what has been
stated determines the date, the time or the moment that the text was written for.
-/

namespace Reckoner

open PatternItem Text

namespace PatternItem

/-- A run of digits, full or followed by something else, is read as the number that it denotes. -/
theorem digits?_append {least most : Nat} {digits rest : List Char} (enough : least ≤ digits.length)
    (room : digits.length ≤ most) (all : ∀ c ∈ digits, c.isDigit = true)
    (ends : digits.length < most → ∀ c ∈ rest.head?, c.isDigit = false)
    (small : digitsValue digits ≤ 9223372036854775807) :
    digits? least most (digits ++ rest) = some (digitsValue digits, rest) := by
  have run : ((digits ++ rest).take most).takeWhile Char.isDigit = digits := by
    rw [List.take_append, List.take_of_length_le room, List.takeWhile_append_of_pos all]
    refine (congrArg _ ?_).trans (List.append_nil _)
    rcases Nat.lt_or_ge digits.length most with more | full
    · cases rest with
      | nil => rw [List.take_nil, List.takeWhile_nil]
      | cons c rest =>
        obtain ⟨count, same⟩ := Nat.exists_eq_succ_of_ne_zero (Nat.sub_ne_zero_of_lt more)
        rw [same, List.take_succ_cons, List.takeWhile_cons_of_neg]
        exact Bool.eq_false_iff.mp (ends more c rfl)
    · rw [Nat.sub_eq_zero_of_le full, List.take_zero, List.takeWhile_nil]
  simp only [digits?, run]
  rw [if_neg (by omega), List.drop_left]

theorem trimStart_cons_of_isDigit {c : Char} (digit : c.isDigit = true) (rest : List Char) :
    trimStart (c :: rest) = c :: rest :=
  List.dropWhile_cons_of_neg (Bool.eq_false_iff.mp (isBlank_of_isWordChar (isWordChar_of_isDigit digit)))

/-- Two places hold two digits of the number. -/
theorem twoPlaces_spec {n : Nat} (small : n < 100) : ∃ c d, twoPlaces .zeros n = [c, d] ∧
    c.isDigit = true ∧ d.isDigit = true ∧ digitsValue [c, d] = n := by
  have all : ∀ n < 100, ((twoPlaces .zeros n).length = 2 ∧
      (twoPlaces .zeros n).all Char.isDigit = true) ∧ digitsValue (twoPlaces .zeros n) = n := by
    decide +kernel
  obtain ⟨⟨two, digits⟩, value⟩ := all n small
  obtain ⟨c, d, same⟩ := List.length_eq_two.mp two
  rw [same] at digits value
  rw [List.all_eq_true] at digits
  exact ⟨c, d, same, digits c (List.mem_cons_self ..), digits d (by simp), value⟩

/-- A number without a sign is read in as many places as its field has. -/
theorem integer?_of_isDigit {c : Char} (digit : c.isDigit = true) (field : NumberField)
    (rest : List Char) : integer? field (c :: rest) =
      (digits? 1 (places (c :: rest) field) (c :: rest)).map fun (n, rest) => ((n : Int), rest) := by
  have unsigned : c ≠ '-' ∧ c ≠ '+' := by
    constructor <;>
      · rintro rfl
        exact absurd digit (by decide)
  unfold integer?
  split
  · next same => exact absurd (List.cons.inj same).1 unsigned.1
  · next same => exact absurd (List.cons.inj same).1 unsigned.1
  · next same => exact absurd (List.cons.inj same).1 unsigned.2
  · next same => exact absurd (List.cons.inj same).1 unsigned.2
  · rfl

/-- A field of two places is stated by the number in front of the text, if it can be. -/
theorem read_twoPlaces {field : NumberField} {n : Nat} (two : ∀ text, places text field = 2)
    (small : n < 100) (fields : Fields) (rest : List Char) :
    (zeros field).read fields (twoPlaces .zeros n ++ rest) =
      (fields.set? field n).map fun next => (next, rest) := by
  obtain ⟨c, d, same, first, second, value⟩ := twoPlaces_spec small
  have digits : digits? 1 2 (c :: d :: rest) = some (n, rest) := by
    rw [← value]
    show digits? 1 2 ([c, d] ++ rest) = _
    refine digits?_append (Nat.le_add_left 1 1) (Nat.le_refl 2) ?_ (fun less => absurd less ?_) ?_
    · exact List.forall_mem_cons.mpr ⟨first, List.forall_mem_singleton.mpr second⟩
    · exact Nat.lt_irrefl 2
    · omega
  have visible : trimStart ([c, d] ++ rest) = c :: d :: rest := trimStart_cons_of_isDigit first _
  rw [same, zeros, read, readNumber, visible, integer?_of_isDigit first, two, digits]
  cases stated : fields.set? field n <;> simp only [Option.map, bind, Option.bind, stated]

/-- The digits of a year: no fewer than four, and no more for a year without a sign. -/
theorem yearPlaces_spec (year : Int) : ∃ sign run, yearPlaces .zeros year = sign ++ run ∧
    sign = (if year < 0 then ['-'] else if 9999 < year then ['+'] else []) ∧ run ≠ [] ∧
    (∀ c ∈ run, c.isDigit = true) ∧ digitsValue run = year.natAbs ∧ (sign = [] → run.length = 4) := by
  have spelled := Numeral.ofNat_ne_nil 10 year.natAbs
  have digits := Numeral.isDigit_of_mem_ofNat (n := year.natAbs)
  have value := digitsValue_ofNat year.natAbs
  obtain ⟨_, least⟩ := Numeral.ofNat_bounds year.natAbs
  rw [yearPlaces, wide]
  generalize Numeral.ofNat 10 year.natAbs = text at spelled digits value least ⊢
  refine ⟨_, _, List.append_assoc .., ?_, List.append_ne_nil_of_right_ne_nil _ spelled,
    List.forall_mem_append.mpr ⟨fun c member => List.eq_of_mem_replicate member ▸ rfl, digits⟩, ?_, ?_⟩
  · split
    · rfl
    · next positive => simp only [positive, decide_false, Bool.false_or, decide_eq_true_eq]
  · rw [digitsValue_append, digitsValue_zeros, Nat.zero_mul, Nat.zero_add, value]
  · intro signless
    have bounds : 0 ≤ year ∧ year ≤ 9999 := by
      split at signless
      · cases signless
      · next positive =>
        split at signless
        · cases signless
        · next small =>
          simp only [positive, decide_false, Bool.false_or, decide_eq_true_eq] at small
          omega
    have few : text.length ≤ 4 := by
      by_contra many
      have power : 10 ^ 4 ≤ 10 ^ (text.length - 1) := Nat.pow_le_pow_right (by decide) (by omega)
      omega
    rw [signless, List.length_append, List.length_replicate, List.length_nil,
      if_neg (by simp only [Bool.or_eq_true, decide_eq_true_eq]; omega)]
    omega

/-- The year is stated by its places in front of the text, signed or not. -/
theorem read_yearPlaces {year : Int} {fields next : Fields} {rest : List Char}
    (small : year.natAbs ≤ 9223372036854775807) (ends : ∀ c ∈ rest.head?, c.isDigit = false)
    (stated : fields.set? .year year = some next) :
    (zeros .year).read fields (yearPlaces .zeros year ++ rest) = some (next, rest) := by
  obtain ⟨sign, run, same, isSign, spelled, all, value, full⟩ := yearPlaces_spec year
  have enough : 1 ≤ run.length := List.length_pos_iff.mpr spelled
  have states {n : Int} (number : integer? .year (trimStart (yearPlaces .zeros year ++ rest)) =
      some (n, rest)) (equal : n = year) :
      (zeros .year).read fields (yearPlaces .zeros year ++ rest) = some (next, rest) := by
    rw [zeros, read, readNumber, number, equal]
    simp only [bind, Option.bind, stated]
  have signed : digits? 1 (run ++ rest).length (run ++ rest) = some (year.natAbs, rest) := by
    rw [← value]
    exact digits?_append enough (List.length_append ▸ Nat.le_add_right _ _) all (fun _ => ends)
      (value ▸ small)
  rw [same] at states ⊢
  split at isSign
  · next negative =>
    rw [isSign] at states ⊢
    refine states (n := -(year.natAbs : Int)) ?_ (by omega)
    rw [List.append_assoc, List.singleton_append, trimStart, List.dropWhile_cons_of_neg (by decide),
      integer?, signed]
    rfl
  · next positive =>
    split at isSign
    · rw [isSign] at states ⊢
      refine states (n := (year.natAbs : Int)) ?_ (by omega)
      rw [List.append_assoc, List.singleton_append, trimStart, List.dropWhile_cons_of_neg (by decide),
        integer?, signed]
      rfl
    · have four := full isSign
      rw [isSign] at states ⊢
      refine states (n := (year.natAbs : Int)) ?_ (by omega)
      obtain ⟨c, more, spell⟩ := List.exists_cons_of_ne_nil spelled
      have digit := all c (spell ▸ List.mem_cons_self ..)
      have unsigned : digits? 1 4 (run ++ rest) = some (year.natAbs, rest) := by
        rw [← value]
        exact digits?_append enough (Nat.le_of_eq four) all
          (fun less => absurd four (Nat.ne_of_lt less)) (value ▸ small)
      rw [spell] at unsigned ⊢
      rw [List.nil_append, List.cons_append, trimStart_cons_of_isDigit digit, integer?_of_isDigit digit,
        places, ← List.cons_append, unsigned]
      rfl

/-- A number of two places is read back and stated. -/
theorem read_twoPlaces_of_set? {field : NumberField} {n : Nat} {fields next : Fields}
    (two : ∀ text, places text field = 2) (small : n < 100)
    (stated : fields.set? field n = some next) (rest : List Char) :
    (zeros field).read fields (twoPlaces .zeros n ++ rest) = some (next, rest) := by
  rw [read_twoPlaces two small, stated, Option.map_some]

theorem read_literal (c : Char) (fields : Fields) (rest : List Char) :
    (literal c).read fields (c :: rest) = some (fields, rest) := if_pos rfl

/-- A step that reads hands over to the steps behind it. -/
theorem inOrder_of_step {step : Step} {fields next : Fields} {text rest : List Char}
    (here : step fields text = some (next, rest)) (steps : List Step) :
    inOrder (step :: steps) fields text = inOrder steps next rest := by
  rw [inOrder, List.foldlM_cons]
  simp only [here]
  rfl

theorem inOrder_of_none {step : Step} {fields : Fields} {text : List Char}
    (here : step fields text = none) (steps : List Step) : inOrder (step :: steps) fields text = none := by
  rw [inOrder, List.foldlM_cons]
  simp only [here]
  rfl

/-- Two places are not read if what follows them is not. -/
theorem inOrder_twoPlaces_eq_none {field : NumberField} {n : Nat} {fields : Fields} {steps : List Step}
    {rest : List Char} (two : ∀ text, places text field = 2) (small : n < 100)
    (stops : ∀ next, inOrder steps next rest = none) :
    inOrder ((zeros field).read :: steps) fields (twoPlaces .zeros n ++ rest) = none := by
  cases stated : fields.set? field n with
  | none =>
    rw [inOrder_of_none]
    rw [read_twoPlaces two small, stated, Option.map_none]
  | some next => rw [inOrder_of_step (read_twoPlaces_of_set? two small stated _), stops]

/-- Day, month and year between points. -/
def dateItems : List PatternItem :=
  [zeros .day, .literal '.', zeros .month, .literal '.', zeros .year]

end PatternItem

def Date.written (date : Date) : List Char :=
  twoPlaces .zeros date.day ++ '.' :: (twoPlaces .zeros date.month ++ '.' :: yearPlaces .zeros date.year)

/-- The time in the standard pattern, without the fraction of the second. -/
def Time.written (time : Time) : List Char :=
  twoPlaces .zeros time.hour ++ ':' ::
    (twoPlaces .zeros time.minute ++ ':' :: twoPlaces .zeros time.shownSecond)

/-- Day, month and year of the date, besides what is stated already. -/
def Fields.ofDate (fields : Fields) (date : Date) : Fields :=
  { fields with day := some date.day, month := some date.month, year := some date.year }

/-- Hour, minute and second of the time, besides what is stated already. -/
def Fields.ofTime (fields : Fields) (time : Time) : Fields :=
  { fields with
    half := some (time.hour / 12), hourOfHalf := some (time.hour % 12), minute := some time.minute,
    second := some time.shownSecond }

theorem Date.bounds (date : Date) : (1 ≤ date.month ∧ date.month ≤ 12) ∧ 1 ≤ date.day ∧
    date.day ≤ 31 ∧ -262143 ≤ date.year ∧ date.year ≤ 262142 := by
  obtain ⟨least, most, some, atMost⟩ := date.exists_day
  have month : 1 ≤ date.month ∧ date.month ≤ 12 ∧ date.day ≤ 31 := by
    unfold daysInMonth at atMost
    split at atMost <;> first | omega | (split at atMost <;> omega)
  omega

theorem Time.shownSecond_le (time : Time) : time.shownSecond ≤ 60 := by
  obtain ⟨_, _, second, nano⟩ := time.exists_time
  rw [shownSecond]
  omega

theorem Fields.set?_day (date : Date) : unknown.set? .day (date.day : Nat) =
    some { unknown with day := some date.day } := by
  obtain ⟨_, firstDay, lastDay, _⟩ := date.bounds
  rw [set?, within?, if_pos (by omega)]
  rfl

theorem Fields.set?_month (date : Date) :
    ({ unknown with day := some date.day } : Fields).set? .month (date.month : Nat) =
      some { unknown with day := some date.day, month := some date.month } := by
  obtain ⟨⟨firstMonth, lastMonth⟩, _⟩ := date.bounds
  rw [set?, within?, if_pos (by omega)]
  rfl

namespace PatternItem

/-- The items of a date read what is written for it. -/
theorem inOrder_dateItems (date : Date) (steps : List Step) {rest : List Char}
    (ends : ∀ c ∈ rest.head?, c.isDigit = false) :
    inOrder (dateItems.map read ++ steps) Fields.unknown (date.written ++ rest) =
      inOrder steps (Fields.unknown.ofDate date) rest := by
  obtain ⟨⟨_, lastMonth⟩, _, lastDay, firstYear, lastYear⟩ := date.bounds
  have year : ({ Fields.unknown with day := some date.day, month := some date.month } : Fields).set?
      .year date.year = some (Fields.unknown.ofDate date) := by
    rw [Fields.set?, Fields.year32?, if_pos (by omega)]
    rfl
  rw [Date.written, dateItems]
  simp only [List.map_cons, List.map_nil, List.cons_append, List.nil_append, List.append_assoc]
  rw [inOrder_of_step (read_twoPlaces_of_set? (fun _ => rfl) (by omega) (Fields.set?_day date) _),
    inOrder_of_step (read_literal ..),
    inOrder_of_step (read_twoPlaces_of_set? (fun _ => rfl) (by omega) (Fields.set?_month date) _),
    inOrder_of_step (read_literal ..), inOrder_of_step (read_yearPlaces (by omega) ends year)]

/-- The items of a time read what is written for it. -/
theorem inOrder_clock (time : Time) (fields : Fields)
    (unstated : fields.half = none ∧ fields.hourOfHalf = none ∧ fields.minute = none ∧
      fields.second = none) :
    inOrder (clock.map read) fields time.written = some (fields.ofTime time, []) := by
  obtain ⟨lastHour, lastMinute, _, _⟩ := time.exists_time
  have lastSecond := time.shownSecond_le
  obtain ⟨half, hourOfHalf, minute, second⟩ := unstated
  have hours : fields.set? .hour (time.hour : Nat) =
      some { fields with half := some (time.hour / 12), hourOfHalf := some (time.hour % 12) } := by
    rw [Fields.set?, Fields.within?, if_pos (by omega)]
    simp only [Fields.setHalf?, half, hourOfHalf, bind, Option.bind, Fields.agree?, Int.toNat_natCast]
  have minutes : ({ fields with half := some (time.hour / 12), hourOfHalf := some (time.hour % 12) } :
      Fields).set? .minute (time.minute : Nat) =
      some { fields with
        half := some (time.hour / 12), hourOfHalf := some (time.hour % 12),
        minute := some time.minute } := by
    rw [Fields.set?, Fields.within?, if_pos (by omega)]
    simp only [minute, bind, Option.bind, Fields.agree?, Int.toNat_natCast]
  have seconds : ({ fields with
        half := some (time.hour / 12), hourOfHalf := some (time.hour % 12),
        minute := some time.minute } : Fields).set? .second (time.shownSecond : Nat) =
      some (fields.ofTime time) := by
    rw [Fields.set?, Fields.within?, if_pos (by omega)]
    simp only [second, bind, Option.bind, Fields.agree?, Int.toNat_natCast, Fields.ofTime]
  rw [Time.written, clock]
  simp only [List.map_cons, List.map_nil]
  have last := read_twoPlaces_of_set? (fun _ => rfl) (by omega) seconds []
  rw [List.append_nil] at last
  rw [inOrder_of_step (read_twoPlaces_of_set? (fun _ => rfl) (by omega) hours _),
    inOrder_of_step (read_literal ..),
    inOrder_of_step (read_twoPlaces_of_set? (fun _ => rfl) (by omega) minutes _),
    inOrder_of_step (read_literal ..), inOrder_of_step last]
  rfl

end PatternItem

namespace Fields

/-- Day, month and year determine the date, whatever time is stated with them. -/
theorem date_ofDate (date : Date) : (unknown.ofDate date).date = .ok date := by
  have exists_date : Date.ofYearMonthDay? date.year date.month date.day = some date :=
    Date.ofYearMonthDay?_eq_some_iff.mpr ⟨rfl, rfl, rfl⟩
  have stated {α : Type} [DecidableEq α] (actual : α) : holds none actual = true := beq_self_eq_true _
  rw [Fields.date]
  simp only [ofDate, unknown, fullYear, bind, Except.bind, existing, exists_date, agreesWithIsoWeek,
    agreesWithOrdinal, holdsOfYear, stated, Bool.and_true, if_true]

/-- Hour, minute and second determine the time, which has no fraction of a second but for a leap
second. -/
theorem time_ofTime {fields : Fields} {time : Time} (whole : time.fraction = 0)
    (unstated : fields.nanosecond = none) : (fields.ofTime time).time = .ok time := by
  obtain ⟨_, _, seconds, nanos⟩ := time.exists_time
  have hours : time.hour / 12 * 12 + time.hour % 12 = time.hour := Nat.div_add_mod' ..
  rw [Time.fraction] at whole
  have shown : (if time.shownSecond = 60 then 59 else time.shownSecond) = time.second ∧
      (if time.shownSecond = 60 then 1000000000 else 0) = time.nano := by
    rw [Time.shownSecond]
    split <;> omega
  have exists_time : Time.ofParts? (time.hour / 12 * 12 + time.hour % 12) time.minute
      (if time.shownSecond = 60 then 59 else time.shownSecond)
      ((if time.shownSecond = 60 then 1000000000 else 0) + 0) = some time :=
    Time.ofParts?_eq_some_iff.mpr ⟨hours.symm, rfl, shown.1.symm, shown.2.symm⟩
  have leap : (some time.shownSecond == some 60) = decide (time.shownSecond = 60) := rfl
  simp only [Fields.time, ofTime, unstated, leap, decide_eq_true_eq, Option.getD_some, Option.getD_none,
    exists_time]

end Fields

namespace Dialect

variable {date : Date} {time : Time}

theorem ofPattern?_date : ofPattern? standard.datePattern.toList = some dateItems := by decide +kernel

theorem ofPattern?_time : ofPattern? standard.timePattern.toList = some clock := by decide +kernel

theorem ofPattern?_moment :
    ofPattern? standard.momentPattern.toList = some (dateItems ++ .blank ' ' :: clock) := by
  decide +kernel

/-- What is printed for a value by the pattern of its kind is its literal. -/
theorem temporalText_of_byPattern? {value : Value} {text : List Char}
    (printed : Value.byPattern? value.kind (standard.pattern value.kind) value = some text) :
    standard.temporalText value = .ok text := by
  rw [temporalText, printed]

theorem valueText_date : standard.valueText (.date date) = .ok date.written := by
  refine temporalText_of_byPattern? ?_
  have texts : dateItems.mapM (print? (some date) none) = some [twoPlaces .zeros date.day, ['.'],
      twoPlaces .zeros date.month, ['.'], yearPlaces .zeros date.year] := rfl
  rw [Value.kind, pattern, Value.byPattern?, ofPattern?_date]
  show printAll? dateItems (some date) none = _
  rw [printAll?, texts, Date.written]
  simp only [Option.map_some, List.flatten_cons, List.flatten_nil, List.append_nil, List.cons_append,
    List.nil_append]

theorem valueText_time : standard.valueText (.time time) = .ok time.written := by
  refine temporalText_of_byPattern? ?_
  have texts : clock.mapM (print? none (some time)) = some [twoPlaces .zeros time.hour, [':'],
      twoPlaces .zeros time.minute, [':'], twoPlaces .zeros time.shownSecond] := rfl
  rw [Value.kind, pattern, Value.byPattern?, ofPattern?_time]
  show printAll? clock none (some time) = _
  rw [printAll?, texts, Time.written]
  simp only [Option.map_some, List.flatten_cons, List.flatten_nil, List.append_nil, List.cons_append,
    List.nil_append]

theorem valueText_moment :
    standard.valueText (.dateTime ⟨date, time⟩) = .ok (date.written ++ ' ' :: time.written) := by
  refine temporalText_of_byPattern? ?_
  have texts : (dateItems ++ .blank ' ' :: clock).mapM (print? (some date) (some time)) =
      some [twoPlaces .zeros date.day, ['.'], twoPlaces .zeros date.month, ['.'],
        yearPlaces .zeros date.year, [' '], twoPlaces .zeros time.hour, [':'],
        twoPlaces .zeros time.minute, [':'], twoPlaces .zeros time.shownSecond] := rfl
  rw [Value.kind, pattern, Value.byPattern?, ofPattern?_moment]
  · show printAll? (dateItems ++ .blank ' ' :: clock) (some date) (some time) = _
    rw [printAll?, texts, Date.written, Time.written]
    simp only [Option.map_some, List.flatten_cons, List.flatten_nil, List.append_nil, List.cons_append,
      List.nil_append, List.append_assoc]
  all_goals simp only [reduceCtorEq, imp_self]

/-- The items of a moment read a date and what follows it. -/
theorem inOrder_momentItems {rest : List Char} (ends : ∀ c ∈ rest.head?, c.isDigit = false) :
    inOrder ((dateItems ++ .blank ' ' :: clock).map read) Fields.unknown (date.written ++ rest) =
      inOrder (clock.map read) (Fields.unknown.ofDate date) (trimStart rest) := by
  rw [List.map_append, inOrder_dateItems date _ ends, List.map_cons]
  exact inOrder_of_step rfl _

/-- The pattern of a moment reads no date alone. -/
theorem temporal?_date : standard.temporal? date.written = some (.date date) := by
  have timeless : readAll? (dateItems ++ .blank ' ' :: clock) date.written = none := by
    rw [readAll?, fieldsOf?, ← List.append_nil date.written, inOrder_momentItems fun c first => by cases first]
    rfl
  have states : readAll? dateItems date.written = some (Fields.unknown.ofDate date) := by
    rw [readAll?, fieldsOf?, ← List.append_nil date.written, ← List.append_nil (dateItems.map read),
      inOrder_dateItems date [] fun c first => by cases first]
    rfl
  simp only [temporal?, List.findSome?, Value.ofPattern?, pattern, ofPattern?_date, ofPattern?_moment,
    bind, Option.bind, timeless, states, Fields.date_ofDate, Except.toOption, Option.map]

/-- No pattern that begins with a date reads a time. -/
theorem temporal?_time (whole : time.fraction = 0) :
    standard.temporal? time.written = some (.time time) := by
  obtain ⟨lastHour, _⟩ := time.exists_time
  have dateless (items : List PatternItem) :
      readAll? (zeros .day :: .literal '.' :: items) time.written = none := by
    rw [readAll?, fieldsOf?, List.map_cons, List.map_cons, Time.written]
    rw [inOrder_twoPlaces_eq_none]
    · exact fun _ => rfl
    · omega
    · exact fun _ => inOrder_of_none rfl _
  have states : readAll? clock time.written = some (Fields.unknown.ofTime time) := by
    rw [readAll?, fieldsOf?, inOrder_clock time Fields.unknown ⟨rfl, rfl, rfl, rfl⟩]
  have undated : readAll? dateItems time.written = none := dateless _
  have undatedToo : readAll? (dateItems ++ .blank ' ' :: clock) time.written = none := dateless _
  have timed : (Fields.unknown.ofTime time).time = .ok time := Fields.time_ofTime whole rfl
  simp only [temporal?, List.findSome?, Value.ofPattern?, pattern, ofPattern?_date, ofPattern?_moment,
    ofPattern?_time, bind, Option.bind, undated, undatedToo, states, timed, Except.toOption, Option.map]

/-- A moment without a fraction of a second is read back from its standard form. -/
theorem temporal?_moment (whole : time.fraction = 0) :
    standard.temporal? (date.written ++ ' ' :: time.written) = some (.dateTime ⟨date, time⟩) := by
  have started : trimStart (' ' :: time.written) = time.written := by
    obtain ⟨lastHour, _⟩ := time.exists_time
    obtain ⟨c, d, same, digit, _⟩ := twoPlaces_spec (n := time.hour) (by omega)
    rw [trimStart, List.dropWhile_cons_of_pos (by decide), Time.written, same]
    exact trimStart_cons_of_isDigit digit _
  have states : readAll? (dateItems ++ .blank ' ' :: clock) (date.written ++ ' ' :: time.written) =
      some ((Fields.unknown.ofDate date).ofTime time) := by
    have ends : ∀ c ∈ (' ' :: time.written).head?, c.isDigit = false := fun c first =>
      Option.some.inj first ▸ rfl
    rw [readAll?, fieldsOf?, inOrder_momentItems ends, started,
      inOrder_clock time _ ⟨rfl, rfl, rfl, rfl⟩]
  have dated : ((Fields.unknown.ofDate date).ofTime time).date = .ok date := Fields.date_ofDate date
  have timed : ((Fields.unknown.ofDate date).ofTime time).time = .ok time :=
    Fields.time_ofTime whole rfl
  have moment : ((Fields.unknown.ofDate date).ofTime time).moment? = some ⟨date, time⟩ := by
    rw [Fields.moment?, dated, timed]
    rfl
  simp only [temporal?, List.findSome?, Value.ofPattern?, pattern, ofPattern?_moment, bind, Option.bind,
    states, moment, Option.map]

end Dialect

namespace PatternItem

/-- The step states no fraction of a second and no timestamp. -/
def Step.Coarse (step : Step) : Prop := ∀ fields text next rest,
  step fields text = some (next, rest) → fields.nanosecond = none ∧ fields.timestamp = none →
    next.nanosecond = none ∧ next.timestamp = none

/-- Numbers from the year down to the second state no fraction. -/
theorem readNumber_coarse {field : NumberField}
    (coarse : field ∈ [NumberField.year, .month, .day, .hour, .minute, .second]) :
    (readNumber field).Coarse := by
  intro fields text next rest success unstated
  obtain ⟨⟨value, behind⟩, _, success⟩ := Option.bind_eq_some_iff.mp success
  obtain ⟨stated, set, same⟩ := Option.bind_eq_some_iff.mp success
  obtain ⟨rfl, _⟩ := Prod.mk.inj (Option.some.inj same)
  cases field with
  | year | day | minute | second =>
    obtain ⟨_, _, set⟩ := Option.bind_eq_some_iff.mp set
    obtain ⟨_, _, same⟩ := Option.bind_eq_some_iff.mp set
    exact Option.some.inj same ▸ unstated
  | month =>
    obtain ⟨_, _, set⟩ := Option.bind_eq_some_iff.mp set
    obtain ⟨_, _, same⟩ := Option.bind_eq_some_iff.mp set
    exact Option.some.inj same ▸ unstated
  | hour =>
    obtain ⟨_, _, set⟩ := Option.bind_eq_some_iff.mp set
    obtain ⟨_, half, set⟩ := Option.bind_eq_some_iff.mp set
    obtain ⟨_, _, halved⟩ := Option.bind_eq_some_iff.mp half
    obtain ⟨_, _, same⟩ := Option.bind_eq_some_iff.mp set
    rw [← Option.some.inj halved] at same
    exact Option.some.inj same ▸ unstated
  | _ => exact absurd coarse (by decide)

theorem readBlank_coarse : readBlank.Coarse := by
  intro fields text next rest success unstated
  exact (Prod.mk.inj (Option.some.inj success)).1 ▸ unstated

theorem readLiteral_coarse (c : Char) : (readLiteral c).Coarse := by
  intro fields text next rest success unstated
  unfold readLiteral at success
  split at success
  · split at success
    · exact (Prod.mk.inj (Option.some.inj success)).1 ▸ unstated
    · cases success
  · cases success

/-- Steps that state no fraction state none in a row. -/
theorem inOrder_coarse {steps : List Step} (all : ∀ step ∈ steps, step.Coarse) :
    (inOrder steps).Coarse := by
  induction steps with
  | nil =>
    intro fields text next rest success unstated
    exact (Prod.mk.inj (Option.some.inj success)).1 ▸ unstated
  | cons step steps ih =>
    obtain ⟨here, others⟩ := List.forall_mem_cons.mp all
    intro fields text next rest success unstated
    obtain ⟨⟨between, middle⟩, first, later⟩ := Option.bind_eq_some_iff.mp success
    exact ih others between middle next rest later (here fields text between middle first unstated)

/-- The items of the standard patterns state no fraction of a second and no timestamp. -/
theorem unstated_of_readAll? {items : List PatternItem} {text : List Char} {fields : Fields}
    (standard : ∀ item ∈ items, item ∈ dateItems ++ .blank ' ' :: clock)
    (states : readAll? items text = some fields) : fields.nanosecond = none ∧ fields.timestamp = none := by
  have coarse : ∀ item ∈ dateItems ++ .blank ' ' :: clock, item.read.Coarse := by
    have number {field : NumberField}
        (coarse : field ∈ [NumberField.year, .month, .day, .hour, .minute, .second]) :
        (zeros field).read.Coarse := readNumber_coarse coarse
    simp only [dateItems, clock, List.cons_append, List.nil_append, List.forall_mem_cons]
    exact ⟨number (by decide), readLiteral_coarse _, number (by decide), readLiteral_coarse _,
      number (by decide), readBlank_coarse, number (by decide), readLiteral_coarse _, number (by decide),
      readLiteral_coarse _, number (by decide), List.forall_mem_nil _⟩
  unfold readAll? fieldsOf? at states
  split at states
  · next next read =>
    obtain rfl := Option.some.inj states
    have all : ∀ step ∈ items.map PatternItem.read, step.Coarse :=
      List.forall_mem_map.mpr fun item member => coarse item (standard item member)
    exact inOrder_coarse all _ _ _ _ read ⟨rfl, rfl⟩
  · cases states

end PatternItem

/-- A time has no fraction of a second if none is stated, but for a leap second. -/
theorem Fields.fraction_of_time {fields : Fields} {time : Time} (unstated : fields.nanosecond = none)
    (determines : fields.time = .ok time) : time.fraction = 0 := by
  unfold Fields.time at determines
  split at determines
  · rw [unstated] at determines
    simp only at determines
    split at determines
    · next exists_time =>
      obtain rfl := Except.ok.inj determines
      obtain ⟨_, _, _, nano⟩ := Time.ofParts?_eq_some_iff.mp exists_time
      rw [Time.fraction, nano]
      split <;> rfl
    · cases determines
  · cases determines

namespace Dialect

/-- Times and moments that are read have no fraction of a second. -/
theorem fraction_of_temporal? {text : List Char} {value : Value}
    (read : standard.temporal? text = some value) : (∀ time, value = .time time → time.fraction = 0) ∧
      ∀ moment, value = .dateTime moment → moment.time.fraction = 0 := by
  obtain ⟨kind, member, read⟩ := List.exists_of_findSome?_eq_some read
  obtain ⟨items, known, read⟩ := Option.bind_eq_some_iff.mp read
  obtain ⟨fields, states, result⟩ := Option.bind_eq_some_iff.mp read
  cases kind with
  | date =>
    obtain ⟨date, _, rfl⟩ := Option.map_eq_some_iff.mp result
    exact ⟨fun _ other => (by cases other), fun _ other => (by cases other)⟩
  | time =>
    obtain rfl := Option.some.inj (ofPattern?_time.symm.trans known)
    obtain ⟨unstated, _⟩ := unstated_of_readAll? (fun item member =>
      List.mem_append_right dateItems (List.mem_cons_of_mem _ member)) states
    obtain ⟨time, determines, rfl⟩ := Option.map_eq_some_iff.mp result
    have whole := Fields.fraction_of_time unstated (Except.toOption_eq_some_iff.mp determines)
    exact ⟨fun _ same => Value.time.inj same ▸ whole, fun _ other => (by cases other)⟩
  | dateTime =>
    obtain rfl := Option.some.inj (ofPattern?_moment.symm.trans known)
    obtain ⟨unstated, untimed⟩ := unstated_of_readAll? (fun _ member => member) states
    obtain ⟨moment, determines, rfl⟩ := Option.map_eq_some_iff.mp result
    refine ⟨fun _ other => (by cases other), fun _ same => Value.dateTime.inj same ▸ ?_⟩
    unfold Fields.moment? at determines
    split at determines
    · next timed =>
      split at determines
      · obtain rfl := Option.some.inj determines
        exact Fields.fraction_of_time unstated timed
      · cases determines
    · cases determines
    · cases determines
    · next _ stated _ _ _ => cases untimed.symm.trans stated
    · cases determines
  | _ => exact absurd member (by decide)

end Dialect

end Reckoner
