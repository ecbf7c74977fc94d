import Reckoner.Dialect.Literal
import Reckoner.Proofs.Source.Name
import Reckoner.Proofs.Source.Surface
import Mathlib.Data.List.TakeWhile

/-! # The characters of literals

Which characters a text may have that the standard dialect reads as a literal. Dates, times and numbers
are made of digits and letters, points, colons, blanks and signs; texts have nothing but their opening
quote at the surface.
-/

namespace Reckoner

namespace PatternItem

/-- What a step takes from the front of a text consists of fine characters. -/
def Step.Takes (fine : Char → Prop) (step : Step) : Prop :=
  ∀ fields text next rest, step fields text = some (next, rest) →
    ∃ front, text = front ++ rest ∧ ∀ c ∈ front, fine c

variable {fine : Char → Prop}

/-- Steps that each take fine characters take fine characters in a row. -/
theorem inOrder_takes {steps : List Step} (all : ∀ step ∈ steps, step.Takes fine) :
    (inOrder steps).Takes fine := by
  induction steps with
  | nil =>
    intro fields text next rest success
    obtain ⟨rfl, rfl⟩ := Prod.mk.inj (Option.some.inj success)
    exact ⟨[], rfl, List.forall_mem_nil _⟩
  | cons step steps ih =>
    obtain ⟨here, others⟩ := List.forall_mem_cons.mp all
    intro fields text next rest success
    obtain ⟨⟨between, middle⟩, first, later⟩ := Option.bind_eq_some_iff.mp success
    obtain ⟨front, rfl, taken⟩ := here fields text between middle first
    obtain ⟨back, rfl, takenToo⟩ := ih others between middle next rest later
    exact ⟨front ++ back, (List.append_assoc ..).symm, List.forall_mem_append.mpr ⟨taken, takenToo⟩⟩

theorem readLiteral_takes {c : Char} (here : fine c) : (readLiteral c).Takes fine := by
  intro fields text next rest success
  unfold readLiteral at success
  split at success
  · split at success
    · next d tail same =>
      obtain ⟨rfl, rfl⟩ := Prod.mk.inj (Option.some.inj success)
      exact ⟨[d], rfl, List.forall_mem_singleton.mpr (same ▸ here)⟩
    · cases success
  · cases success

theorem readBlank_takes (blanks : ∀ c, Text.isBlank c = true → fine c) : readBlank.Takes fine := by
  intro fields text next rest success
  obtain ⟨rfl, rfl⟩ := Prod.mk.inj (Option.some.inj success)
  obtain ⟨front, same, blank⟩ := Text.exists_trimStart text
  exact ⟨front, same, fun c member => blanks c (blank c member)⟩

theorem digits?_takes {least most value : Nat} {text rest : List Char}
    (success : digits? least most text = some (value, rest)) :
    ∃ front, text = front ++ rest ∧ ∀ c ∈ front, c.isDigit = true := by
  unfold digits? at success
  simp only at success
  split at success
  · cases success
  · obtain ⟨_, rfl⟩ := Prod.mk.inj (Option.some.inj success)
    refine ⟨(text.take most).takeWhile Char.isDigit, ?_, fun c => List.mem_takeWhile_imp⟩
    have start : (text.take most).takeWhile Char.isDigit <+: text :=
      (List.takeWhile_prefix _).trans (List.take_prefix _ _)
    exact (List.prefix_iff_eq_append.mp start).symm

theorem readNumber_takes {field : NumberField} (blanks : ∀ c, Text.isBlank c = true → fine c)
    (digits : ∀ c, c.isDigit = true → fine c) (plus : fine '+') (minus : fine '-') :
    (readNumber field).Takes fine := by
  intro fields text next rest success
  obtain ⟨⟨value, behind⟩, number, set⟩ := Option.bind_eq_some_iff.mp success
  obtain ⟨_, _, same⟩ := Option.bind_eq_some_iff.mp set
  obtain ⟨rfl, rfl⟩ := Prod.mk.inj (Option.some.inj same)
  obtain ⟨blank, split, allBlank⟩ := Text.exists_trimStart text
  have unsigned {text : List Char} {least most : Nat} {count : Nat}
      (read : digits? least most text = some (count, behind)) :
      ∃ front, text = front ++ behind ∧ ∀ c ∈ front, fine c := by
    obtain ⟨front, same, all⟩ := digits?_takes read
    exact ⟨front, same, fun c member => digits c (all c member)⟩
  have signed {sign : Char} {text tail : List Char} {least most count : Nat} (here : fine sign)
      (same : text = sign :: tail) (read : digits? least most tail = some (count, behind)) :
      ∃ front, text = front ++ behind ∧ ∀ c ∈ front, fine c := by
    obtain ⟨front, rfl, all⟩ := unsigned read
    exact ⟨sign :: front, same, List.forall_mem_cons.mpr ⟨here, all⟩⟩
  have whole : ∃ front, Text.trimStart text = front ++ behind ∧ ∀ c ∈ front, fine c := by
    unfold integer? at number
    split at number
    all_goals
      obtain ⟨⟨count, tail⟩, read, same⟩ := Option.map_eq_some_iff.mp number
      obtain ⟨_, rfl⟩ := Prod.mk.inj same
    · next start _ _ _ => exact signed minus start read
    · next start _ _ _ => exact signed minus start read
    · next start _ _ _ => exact signed plus start read
    · next start _ _ _ => exact signed plus start read
    · exact unsigned read
  obtain ⟨front, same, all⟩ := whole
  refine ⟨blank ++ front, by rw [List.append_assoc, ← same, ← split], ?_⟩
  exact List.forall_mem_append.mpr ⟨fun c member => blanks c (allBlank c member), all⟩

/-- A text that is read by fine items consists of fine characters. -/
theorem readAll?_takes {items : List PatternItem} {text : List Char} {fields : Fields}
    (all : ∀ item ∈ items, item.read.Takes fine) (success : readAll? items text = some fields) :
    ∀ c ∈ text, fine c := by
  unfold readAll? fieldsOf? at success
  split at success
  · next found =>
    obtain ⟨front, rfl, taken⟩ :=
      inOrder_takes (List.forall_mem_map.mpr all) Fields.unknown text _ [] found
    rw [List.append_nil]
    exact taken
  · cases success

/-- The marks that must be there are there, as often as they must be. -/
theorem count_le_of_readAll? {items : List PatternItem} {text : List Char} {fields : Fields}
    (all : ∀ item ∈ items, item.read.Takes fun _ => True)
    (success : readAll? items text = some fields) (c : Char) :
    items.count (.literal c) ≤ text.count c := by
  have spread (items : List PatternItem) (all : ∀ item ∈ items, item.read.Takes fun _ => True)
      (fields next : Fields) (text rest : List Char)
      (success : inOrder (items.map read) fields text = some (next, rest)) :
      items.count (.literal c) ≤ text.count c := by
    induction items generalizing fields text with
    | nil => exact Nat.zero_le _
    | cons item items ih =>
      obtain ⟨here, others⟩ := List.forall_mem_cons.mp all
      obtain ⟨⟨between, middle⟩, first, later⟩ := Option.bind_eq_some_iff.mp success
      have further := ih others between middle later
      by_cases mark : item = .literal c
      · subst mark
        cases text with
        | nil => cases first
        | cons d tail =>
          change (if c = d then some (fields, tail) else none) = some (between, middle) at first
          split at first
          · next same =>
            obtain ⟨_, rfl⟩ := Prod.mk.inj (Option.some.inj first)
            rw [same] at further ⊢
            rw [List.count_cons_self, List.count_cons_self]
            exact Nat.succ_le_succ further
          · cases first
      · obtain ⟨front, rfl, _⟩ := here fields text between middle first
        rw [List.count_cons_of_ne mark, List.count_append]
        exact Nat.le_trans further (Nat.le_add_left _ _)
  unfold readAll? fieldsOf? at success
  split at success
  · next found => exact spread items all Fields.unknown _ text [] found
  · cases success

end PatternItem

namespace Text

def isSign (c : Char) : Bool := c == '+' || c == '-'

/-- The characters of numbers, dates and times that are not signs. -/
def isPlainChar (c : Char) : Bool := isWordChar c || isBlank c || c == '.' || c == ':'

theorem isPlainChar_of_isWordChar {c : Char} (word : isWordChar c = true) :
    isPlainChar c = true := by
  rw [isPlainChar, word, Bool.true_or, Bool.true_or, Bool.true_or]

end Text

namespace Numeral

theorem isWordChar_of_digitValue? {c : Char} {digit : Nat} (found : digitValue? c = some digit) :
    Text.isWordChar c = true := by
  have within (low high : Char) (range : low ≤ c ∧ c ≤ high) :
      (decide (c.val ≥ low.val) && decide (c.val ≤ high.val)) = true :=
    Bool.and_eq_true_iff.mpr ⟨decide_eq_true range.1, decide_eq_true range.2⟩
  unfold digitValue? at found
  split at found
  · next range => exact Text.isWordChar_of_isDigit (within '0' '9' range)
  · split at found
    · next range => exact Text.isWordChar_of_isAlpha (Bool.or_eq_true_iff.mpr (.inl (decide_eq_true range)))
    · split at found
      · next range => exact Text.isWordChar_of_isAlpha (Bool.or_eq_true_iff.mpr (.inr (within 'a' 'z' range)))
      · cases found

/-- The digits below ten are the decimal ones. -/
theorem isDigit_of_digitValue? {c : Char} {digit : Nat} (found : digitValue? c = some digit)
    (small : digit < 10) : c.isDigit = true := by
  have letter {low : Char} {offset : Nat} (above : low ≤ c) (far : 10 + offset ≤ low.toNat)
      (same : some (c.toNat - offset) = some digit) : c.isDigit = true := by
    have atLeast : low.toNat ≤ c.toNat := above
    have value := Option.some.inj same
    omega
  unfold digitValue? at found
  split at found
  · next range => exact Bool.and_eq_true_iff.mpr ⟨decide_eq_true range.1, decide_eq_true range.2⟩
  · split at found
    · next range => exact letter range.1 (by decide) found
    · split at found
      · next range => exact letter range.1 (by decide) found
      · cases found

/-- A numeral without a sign consists of digits in the radix. -/
theorem exists_digit_of_readNat? {radix n : Nat} {text : List Char}
    (success : readNat? radix text = some n) :
    text ≠ [] ∧ ∀ c ∈ text, ∃ digit < radix, digitValue? c = some digit := by
  have spread (text : List Char) (value : Nat) (success : readOnto? radix value text = some n) :
      ∀ c ∈ text, ∃ digit < radix, digitValue? c = some digit := by
    induction text generalizing value with
    | nil => exact List.forall_mem_nil _
    | cons c rest ih =>
      obtain ⟨digit, found, later⟩ := Option.bind_eq_some_iff.mp success
      split at later
      · next small => exact List.forall_mem_cons.mpr ⟨⟨digit, small, found⟩, ih _ later⟩
      · cases later
  unfold readNat? at success
  split at success
  · cases success
  · next spelled => exact ⟨List.isEmpty_eq_false_iff.mp (Bool.eq_false_iff.mpr spelled), spread text 0 success⟩

/-- The digits of a numeral are characters of words. -/
theorem isWordChar_of_readNat? {radix n : Nat} {text : List Char}
    (success : readNat? radix text = some n) : ∀ c ∈ text, Text.isWordChar c = true := by
  intro c member
  obtain ⟨_, _, found⟩ := (exists_digit_of_readNat? success).2 c member
  exact isWordChar_of_digitValue? found

/-- A numeral consists of digits and letters and perhaps a sign. -/
theorem isWordChar_or_isSign_of_readInt? {radix : Nat} {text : List Char} {n : Int}
    (success : readInt? radix text = some n) :
    ∀ c ∈ text, Text.isWordChar c = true ∨ Text.isSign c = true := by
  have signed {sign : Char} {rest : List Char} {size : Nat} (here : Text.isSign sign = true)
      (read : readNat? radix rest = some size) :
      ∀ c ∈ sign :: rest, Text.isWordChar c = true ∨ Text.isSign c = true :=
    List.forall_mem_cons.mpr ⟨.inr here, fun c member => .inl (isWordChar_of_readNat? read c member)⟩
  unfold readInt? at success
  split at success
  all_goals obtain ⟨size, read, _⟩ := Option.map_eq_some_iff.mp success
  · obtain ⟨natural, read, _⟩ := Option.bind_eq_some_iff.mp read
    exact signed rfl read
  · exact signed rfl read
  · exact fun c member => .inl (isWordChar_of_readNat? read c member)

end Numeral

/-- Text with a point is no long. -/
theorem Long.ofNumeral?_of_point (radix : Nat) {text : List Char} (point : '.' ∈ text) :
    Long.ofNumeral? radix text = none := by
  cases long : Long.ofNumeral? radix text with
  | none => rfl
  | some n =>
    obtain ⟨size, numeral, _⟩ := Option.bind_eq_some_iff.mp long
    exact absurd (Numeral.isWordChar_or_isSign_of_readInt? numeral '.' point) (by decide)

namespace Double

theorem isWordChar_or_isSign_of_readExponent? {text : List Char} {n : Int}
    (success : readExponent? text = some n) :
    ∀ c ∈ text, Text.isWordChar c = true ∨ Text.isSign c = true := by
  have digits {text : List Char} {n : Int}
      (success : (if !text.isEmpty && text.all Char.isDigit then some (digitsValue text : Int)
        else none) = some n) : ∀ c ∈ text, Text.isWordChar c = true ∨ Text.isSign c = true := by
    split at success
    · next all =>
      intro c member
      have digit := List.all_eq_true.mp (Bool.and_eq_true_iff.mp all).2 c member
      exact .inl (Text.isWordChar_of_isDigit digit)
    · cases success
  unfold readExponent? at success
  simp only at success
  split at success
  · obtain ⟨size, read, _⟩ := Option.map_eq_some_iff.mp success
    exact List.forall_mem_cons.mpr ⟨.inr rfl, digits read⟩
  · exact List.forall_mem_cons.mpr ⟨.inr rfl, digits success⟩
  · exact digits success

theorem isPlainChar_or_isSign_of_readDecimal? {text : List Char} {x : Double}
    (success : readDecimal? text = some x) :
    ∀ c ∈ text, Text.isPlainChar c = true ∨ Text.isSign c = true := by
  have digits (text : List Char) :
      ∀ c ∈ text.takeWhile Char.isDigit, Text.isPlainChar c = true ∨ Text.isSign c = true :=
    fun c member => .inl (Text.isPlainChar_of_isWordChar
      (Text.isWordChar_of_isDigit (List.mem_takeWhile_imp member)))
  have exponent {mark : Char} {more : List Char} (isMark : mark = 'e' ∨ mark = 'E') {n : Int}
      (read : readExponent? more = some n) :
      ∀ c ∈ mark :: more, Text.isPlainChar c = true ∨ Text.isSign c = true := by
    have plain : ∀ c, c = 'e' ∨ c = 'E' → Text.isPlainChar c = true := by
      rintro c (rfl | rfl) <;> decide
    refine List.forall_mem_cons.mpr ⟨.inl (plain _ isMark), fun c member => ?_⟩
    exact (isWordChar_or_isSign_of_readExponent? read c member).imp_left
      Text.isPlainChar_of_isWordChar
  rw [← List.takeWhile_append_dropWhile (p := Char.isDigit) (l := text)]
  refine List.forall_mem_append.mpr ⟨digits text, ?_⟩
  unfold readDecimal? spanDigits at success
  cases behind : List.dropWhile Char.isDigit text with
  | nil => exact List.forall_mem_nil _
  | cons mark more =>
    simp only [behind] at success
    split at success
    · next point more same =>
      obtain ⟨rfl, rfl⟩ := List.cons.inj same
      rw [← List.takeWhile_append_dropWhile (p := Char.isDigit) (l := more)]
      refine List.forall_mem_cons.mpr ⟨.inl rfl, List.forall_mem_append.mpr ⟨digits more, ?_⟩⟩
      split at success
      · cases success
      · split at success
        · next none => exact (show List.dropWhile Char.isDigit more = [] from none) ▸ List.forall_mem_nil _
        · next mark rest start =>
          rw [show List.dropWhile Char.isDigit more = mark :: rest from start]
          split at success
          · next isMark =>
            obtain ⟨n, read, _⟩ := Option.bind_eq_some_iff.mp success
            exact exponent isMark read
          · cases success
    · split at success
      · cases success
      · split at success
        · next none => exact absurd none (List.cons_ne_nil _ _)
        · next start =>
          obtain ⟨rfl, rfl⟩ := List.cons.inj (show mark :: more = _ :: _ from start)
          split at success
          · next isMark =>
            obtain ⟨n, read, _⟩ := Option.bind_eq_some_iff.mp success
            exact exponent isMark read
          · cases success

/-- A double is written in plain characters and signs. -/
theorem isPlainChar_or_isSign_of_read? {text : List Char} {x : Double}
    (success : read? text = some x) : ∀ c ∈ text, Text.isPlainChar c = true ∨ Text.isSign c = true := by
  -- The spelled-out numbers are words, and the others are decimals.
  have unsigned {text : List Char} {x : Double} (success : readSize? text = some x) :
      ∀ c ∈ text, Text.isPlainChar c = true ∨ Text.isSign c = true := by
    have worded {spelling : List Char} (word : ∀ c ∈ spelling, Text.isWordChar c = true)
        (same : text.map Char.toLower = spelling) :
        ∀ c ∈ text, Text.isPlainChar c = true ∨ Text.isSign c = true := fun c member => by
      have lower := word c.toLower (same ▸ List.mem_map_of_mem member)
      exact .inl (Text.isPlainChar_of_isWordChar (Text.isWordChar_toLower c ▸ lower))
    unfold readSize? at success
    simp only at success
    split at success
    · next same => exact worded (by decide) same
    · split at success
      · next same =>
        rcases same with same | same
        · exact worded (by decide) same
        · exact worded (by decide) same
      · exact isPlainChar_or_isSign_of_readDecimal? success
  unfold read? at success
  split at success
  · obtain ⟨size, read, _⟩ := Option.map_eq_some_iff.mp success
    exact List.forall_mem_cons.mpr ⟨.inr rfl, unsigned read⟩
  · exact List.forall_mem_cons.mpr ⟨.inr rfl, unsigned success⟩
  · exact unsigned success

end Double

namespace Dialect

/-- Neither plain characters nor signs are delimiters. -/
theorem isDelimiter_of_isPlainChar_or_isSign {c : Char}
    (plain : Text.isPlainChar c = true ∨ Text.isSign c = true) : standard.isDelimiter c = false := by
  rw [← Bool.not_eq_true]
  intro delimiter
  have delimiters : c ∈ ['(', ')', '"'] := by
    simpa [isDelimiter, standard, or_assoc, or_comm, or_left_comm] using delimiter
  have outside : ∀ c ∈ ['(', ')', '"'], ¬ (Text.isPlainChar c = true ∨ Text.isSign c = true) := by
    decide
  exact outside c delimiters plain

theorem isDelimiter_of_isBlank {c : Char} (blank : Text.isBlank c = true) :
    standard.isDelimiter c = false := by
  refine isDelimiter_of_isPlainChar_or_isSign (.inl ?_)
  rw [Text.isPlainChar, blank, Bool.or_true, Bool.true_or, Bool.true_or]

/-- The standard patterns are made of numbers, of points and colons, and of blanks. -/
theorem exists_items {kind : Kind} (temporal : kind ∈ [Kind.dateTime, .date, .time]) :
    ∃ items, PatternItem.ofPattern? (standard.pattern kind).toList = some items ∧
      (∀ item ∈ items, (∃ field padding, item = .number field padding) ∨
        item = .literal '.' ∨ item = .literal ':' ∨ item = .blank ' ') ∧
      ∃ c ∈ ['.', ':'], 2 ≤ items.count (.literal c) := by
  cases kind with
  | date =>
    exact ⟨[.zeros .day, .literal '.', .zeros .month, .literal '.', .zeros .year],
      by decide +kernel, by simp [PatternItem.zeros], '.', List.mem_cons_self .., by decide⟩
  | time =>
    exact ⟨[.zeros .hour, .literal ':', .zeros .minute, .literal ':', .zeros .second],
      by decide +kernel, by simp [PatternItem.zeros], ':', List.mem_cons_of_mem _ (List.mem_cons_self ..),
      by decide⟩
  | dateTime =>
    exact ⟨[.zeros .day, .literal '.', .zeros .month, .literal '.', .zeros .year, .blank ' ',
      .zeros .hour, .literal ':', .zeros .minute, .literal ':', .zeros .second],
      by decide +kernel, by simp [PatternItem.zeros], '.', List.mem_cons_self .., by decide⟩
  | _ => exact absurd temporal (by decide)

/-- A text that denotes a date, a time or a moment consists of blanks, digits, signs and the marks between
the numbers, of which one is there twice. -/
theorem forall_of_temporal? {text : List Char} {value : Value}
    (success : standard.temporal? text = some value) {fine : Char → Prop}
    (blanks : ∀ c, Text.isBlank c = true → fine c) (digits : ∀ c, c.isDigit = true → fine c)
    (marks : ∀ c ∈ ['+', '-', '.', ':'], fine c) :
    (∀ c ∈ text, fine c) ∧ value.kind ∈ [Kind.dateTime, .date, .time] ∧
      ∃ c ∈ ['.', ':'], 2 ≤ text.count c := by
  obtain ⟨kind, member, read⟩ := List.exists_of_findSome?_eq_some success
  obtain ⟨items, known, forms, mark, isMark, marked⟩ := exists_items member
  obtain ⟨others, same, read⟩ := Option.bind_eq_some_iff.mp read
  obtain rfl := Option.some.inj (known.symm.trans same)
  obtain ⟨fields, states, read⟩ := Option.bind_eq_some_iff.mp read
  have takes {fine : Char → Prop} (numbers : ∀ field, (PatternItem.readNumber field).Takes fine)
      (point : fine '.') (colon : fine ':') (blank : PatternItem.readBlank.Takes fine) :
      ∀ item ∈ items, item.read.Takes fine := by
    intro item inside
    rcases forms item inside with ⟨field, padding, rfl⟩ | rfl | rfl | rfl
    · exact numbers field
    · exact PatternItem.readLiteral_takes point
    · exact PatternItem.readLiteral_takes colon
    · exact blank
  refine ⟨?_, ?_, mark, isMark, ?_⟩
  · refine PatternItem.readAll?_takes (takes (fun field => ?_) (marks _ (by decide)) (marks _ (by decide))
      (PatternItem.readBlank_takes blanks)) states
    exact PatternItem.readNumber_takes blanks digits (marks _ (by decide)) (marks _ (by decide))
  · cases kind with
    | date | time | dateTime =>
      obtain ⟨_, _, rfl⟩ := Option.map_eq_some_iff.mp read
      exact member
    | _ => cases read
  · refine Nat.le_trans marked (PatternItem.count_le_of_readAll? (takes (fun field => ?_) trivial trivial
      (PatternItem.readBlank_takes fun _ _ => trivial)) states mark)
    exact PatternItem.readNumber_takes (fun _ _ => trivial) (fun _ _ => trivial) trivial trivial

/-- A date or time is written in plain characters and signs, of which a point or a colon stands there twice.
-/
theorem isPlainChar_or_isSign_of_temporal? {text : List Char} {value : Value}
    (success : standard.temporal? text = some value) :
    (∀ c ∈ text, Text.isPlainChar c = true ∨ Text.isSign c = true) ∧
      value.kind ∈ [Kind.dateTime, .date, .time] ∧ ∃ c ∈ ['.', ':'], 2 ≤ text.count c := by
  refine forall_of_temporal? success (fun c blank => .inl ?_) (fun c digit => .inl ?_) (by decide)
  · rw [Text.isPlainChar, blank, Bool.or_true, Bool.true_or, Bool.true_or]
  · exact Text.isPlainChar_of_isWordChar (Text.isWordChar_of_isDigit digit)

/-- A number is written in plain characters and signs. -/
theorem isPlainChar_or_isSign_of_number? {text : List Char} {value : Value}
    (success : standard.number? text = some value) :
    (∀ c ∈ text, Text.isPlainChar c = true ∨ Text.isSign c = true) ∧
      value.kind ∈ [Kind.long, .double] := by
  rcases Option.or_eq_some_iff.mp success with long | ⟨_, double⟩
  · obtain ⟨n, read, rfl⟩ := Option.map_eq_some_iff.mp long
    obtain ⟨size, numeral, _⟩ := Option.bind_eq_some_iff.mp read
    refine ⟨fun c member => ?_, List.mem_cons_self ..⟩
    exact (Numeral.isWordChar_or_isSign_of_readInt? numeral c member).imp_left
      Text.isPlainChar_of_isWordChar
  · obtain ⟨x, read, rfl⟩ := Option.map_eq_some_iff.mp double
    exact ⟨Double.isPlainChar_or_isSign_of_read? read, List.mem_cons_of_mem _ (List.mem_cons_self ..)⟩

/-- Nothing but the opening quote of a quoted text is at the surface, and what follows it is. -/
theorem scan_of_quotedText? {dialect : Dialect} {text inner : List Char}
    (quoted : dialect.quotedText? text = some inner) :
    dialect.surfaceChars text = [dialect.stringOpen] ∧
      dialect.scan Nesting.surface text = Nesting.surface := by
  have hidden (depth : Int) (inner : List Char) (unclosed : dialect.stringClose ∉ inner) :
      dialect.surfaceFrom ⟨depth, true⟩ (inner ++ [dialect.stringClose]) = [] ∧
        dialect.scan ⟨depth, true⟩ (inner ++ [dialect.stringClose]) = ⟨depth, false⟩ := by
    have deep : (⟨depth, true⟩ : Nesting) ≠ Nesting.surface := by simp [Nesting.surface]
    induction inner with
    | nil =>
      rw [List.nil_append, surfaceFrom, if_neg deep, surfaceFrom, scan_cons]
      exact ⟨rfl, by simp [scan, Nesting.after]⟩
    | cons c rest ih =>
      rw [List.mem_cons, not_or] at unclosed
      obtain ⟨other, others⟩ := unclosed
      have still : Nesting.after dialect ⟨depth, true⟩ c = ⟨depth, true⟩ := by
        simp [Nesting.after, Ne.symm other]
      rw [List.cons_append, surfaceFrom, if_neg deep, scan_cons, still]
      exact ih others
  unfold quotedText? at quoted
  split at quoted
  · cases quoted
  · next c rest =>
    split at quoted
    · next ends =>
      obtain ⟨rfl, closes, unclosed⟩ := ends
      have ending : rest = rest.dropLast ++ [dialect.stringClose] := by
        rw [List.dropLast_append_getLast? _ closes]
      have opens : Nesting.surface.after dialect dialect.stringOpen = ⟨0, true⟩ := by
        simp [Nesting.after, Nesting.surface]
      rw [Bool.not_eq_true', ← Bool.not_eq_true, List.contains_iff_mem] at unclosed
      obtain ⟨covered, balanced⟩ := hidden 0 _ unclosed
      rw [surfaceChars, surfaceFrom, if_pos rfl, scan_cons, opens, ending, covered, balanced]
      exact ⟨rfl, rfl⟩
    · cases quoted

/-- A literal is spelled with plain characters, or it is a number, a date or a time with signs, or a quoted
text. -/
theorem forms_of_literal? {text : List Char} {value : Value}
    (written : standard.literal? text = some value) :
    (∀ c ∈ text, Text.isPlainChar c = true) ∨
      (∀ c ∈ text, Text.isPlainChar c = true ∨ Text.isSign c = true) ∧
        value.kind ∉ [Kind.boolean, .string, .null] ∨
      ∃ inner, standard.quotedText? text = some inner := by
  have stamps : ∀ kind ∈ [Kind.dateTime, .date, .time], kind ∉ [Kind.boolean, .string, .null] := by
    decide
  have numbers : ∀ kind ∈ [Kind.long, .double], kind ∉ [Kind.boolean, .string, .null] := by decide
  have spelled {spelling : List Char} (word : ∀ c ∈ spelling, Text.isWordChar c = true)
      (same : Text.sameSpelling text spelling = true) : ∀ c ∈ text, Text.isPlainChar c = true :=
    fun c member =>
      Text.isPlainChar_of_isWordChar (Text.isWordChar_of_sameSpelling same word c member)
  unfold literal? at written
  split at written
  · next same => exact .inl (spelled (by decide) same)
  · split at written
    · next same => exact .inl (spelled (by decide) same)
    · split at written
      · next same => exact .inl (spelled (by decide) same)
      · rcases Option.or_eq_some_iff.mp written with temporal | ⟨_, written⟩
        · obtain ⟨all, kinds, _⟩ := isPlainChar_or_isSign_of_temporal? temporal
          exact .inr (.inl ⟨all, stamps _ kinds⟩)
        · rcases Option.or_eq_some_iff.mp written with number | ⟨_, quoted⟩
          · obtain ⟨all, kinds⟩ := isPlainChar_or_isSign_of_number? number
            exact .inr (.inl ⟨all, numbers _ kinds⟩)
          · obtain ⟨inner, quoted, _⟩ := Option.map_eq_some_iff.mp quoted
            exact .inr (.inr ⟨inner, quoted⟩)

/-- A literal ends at the surface, and signs at its surface tell numbers, dates and times from all
others. -/
theorem scan_of_literal? {text : List Char} {value : Value}
    (written : standard.literal? text = some value) :
    standard.scan Nesting.surface text = Nesting.surface ∧
      ∀ c ∈ standard.surfaceChars text, Text.isPlainChar c = true ∨ c = '"' ∨
        Text.isSign c = true ∧ value.kind ∉ [Kind.boolean, .string, .null] := by
  rcases forms_of_literal? written with plain | ⟨all, kinds⟩ | ⟨inner, quoted⟩
  · refine ⟨scan_of_plain (fun c member => ?_) _, fun c member => ?_⟩
    · exact isDelimiter_of_isPlainChar_or_isSign (.inl (plain c member))
    · exact .inl (plain c (mem_of_mem_surfaceFrom member))
  · refine ⟨scan_of_plain (fun c member => ?_) _, fun c member => ?_⟩
    · exact isDelimiter_of_isPlainChar_or_isSign (all c member)
    · exact (all c (mem_of_mem_surfaceFrom member)).imp_right fun sign => .inr ⟨sign, kinds⟩
  · obtain ⟨surface, balanced⟩ := scan_of_quotedText? quoted
    rw [surface]
    exact ⟨balanced, List.forall_mem_singleton.mpr (.inr (.inl rfl))⟩

end Dialect

end Reckoner
