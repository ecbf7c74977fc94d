import Reckoner.Proofs.Calendar.Suffix
import Reckoner.Proofs.Source.LiteralCase
import Reckoner.Proofs.Writing.Numeral
import Reckoner.Settings.Basic
import Reckoner.Tree.Basic

/-! # Literals of other dialects

The settings leave the spellings, the radix and the patterns of a dialect free, and its readers are tried in
one order for all of them. A truth value, null or a long is always written, and its own reader reads it back
in every radix. It is read back as a literal unless one of the readers of words, dates and times, which are
tried before numbers, takes it for something else. A dialect that passes its check may be one where that
happens; it does not happen where the three words differ, none of them is a numeral, and every pattern has a
mark that numerals lack.
-/

namespace Reckoner

/-- Texts that differ in the case of letters only are numerals of the same long. -/
theorem Long.ofNumeral?_of_sameSpelling {radix : Nat} {left right : List Char}
    (same : Text.sameSpelling left right = true) : ofNumeral? radix left = ofNumeral? radix right := by
  rw [ofNumeral?, ofNumeral?, ← Numeral.readInt?_asciiLower, ← Numeral.readInt?_asciiLower _ right,
    beq_iff_eq.mp same]

namespace Dialect

def word? (dialect : Dialect) (text : List Char) : Option Value :=
  if Text.sameSpelling text dialect.trueSpelling.toList then some (.boolean true)
  else if Text.sameSpelling text dialect.falseSpelling.toList then some (.boolean false)
  else if Text.sameSpelling text dialect.nullSpelling.toList then some .null
  else none

variable {dialect : Dialect} {text : List Char} {value : Value}

/-- Words are tried first, then dates and times, then numbers. -/
theorem literal?_eq : dialect.literal? text =
    (dialect.word? text).or ((dialect.temporal? text).or ((dialect.number? text).or
      ((dialect.quotedText? text).map fun text => .string (String.ofList text)))) := by
  rw [literal?, word?]
  split
  · rfl
  · split
    · rfl
    · split <;> rfl

/-- The three spellings are words of the dialect. -/
theorem word?_ne_none (spelled : text = dialect.trueSpelling.toList ∨ text = dialect.falseSpelling.toList ∨
    text = dialect.nullSpelling.toList) : dialect.word? text ≠ none := by
  have same (text : List Char) : Text.sameSpelling text text = true := BEq.rfl
  rw [word?]
  rcases spelled with rfl | rfl | rfl
  · rw [if_pos (same _)]
    nofun
  · rw [if_pos (same _)]
    split <;> nofun
  · rw [if_pos (same _)]
    split
    · nofun
    · split <;> nofun

/-- Null, the truth values and the longs are written as texts that the readers of words, dates and times may
take, and that are read as the value otherwise. -/
theorem exists_literalText (simple : value.kind ∈ [Kind.null, .boolean, .long]) :
    ∃ text, dialect.literalText value.kind value = .ok text ∧ dialect.valueText value = .ok text ∧
      dialect.literal? text = ((dialect.word? text).or (dialect.temporal? text)).or (some value) := by
  have kept : dialect.literalText value.kind value = dialect.valueText value := by
    rw [literalText, declared, Value.coerce_kind]
    split <;> rfl
  have spelled (text : List Char) (written : dialect.valueText value = .ok text)
      (own : dialect.word? text ≠ none) : ∃ text, dialect.literalText value.kind value = .ok text ∧
        dialect.valueText value = .ok text ∧
        dialect.literal? text = ((dialect.word? text).or (dialect.temporal? text)).or (some value) := by
    obtain ⟨word, same⟩ := Option.ne_none_iff_exists'.mp own
    exact ⟨text, kept.trans written, written, by rw [literal?_eq, same]; rfl⟩
  cases value with
  | null => exact spelled dialect.nullSpelling.toList rfl (word?_ne_none (.inr (.inr rfl)))
  | boolean truth =>
    cases truth with
    | true => exact spelled dialect.trueSpelling.toList rfl (word?_ne_none (.inl rfl))
    | false => exact spelled dialect.falseSpelling.toList rfl (word?_ne_none (.inr (.inl rfl)))
  | long n =>
    refine ⟨n.numeral dialect.radix, kept, rfl, ?_⟩
    rw [literal?_eq, number?, Long.ofNumeral?_numeral, Option.map_some, Option.some_or, Option.some_or,
      Option.or_assoc]
  | _ => exact absurd simple (by simp [Value.kind])

/-- Null, the truth values and the longs are written, and what is written is read as the value exactly if the
readers of words, dates and times take it for nothing else. -/
theorem literal?_iff_of_simple (simple : value.kind ∈ [Kind.null, .boolean, .long]) :
    ∃ text, dialect.literalText value.kind value = .ok text ∧
      ((dialect.literal? text).map Tree.ofValue = some (.literal value.kind value) ↔
        ∀ other ∈ (dialect.word? text).or (dialect.temporal? text), other = value) := by
  obtain ⟨text, written, _, read⟩ := @exists_literalText dialect value simple
  refine ⟨text, written, ?_⟩
  have same (other : Value) : Tree.ofValue other = .literal value.kind value ↔ other = value :=
    ⟨fun same => (Tree.literal.inj same).2, fun same => same ▸ rfl⟩
  simp only [read, Option.map_eq_some_iff, same, exists_eq_right]
  cases (dialect.word? text).or (dialect.temporal? text) with
  | some other => simp only [Option.some_or, Option.some.injEq, Option.mem_def, forall_eq']
  | none => simp only [Option.none_or, Option.not_mem_none, false_implies, implies_true]

/-- In radix thirty-six one long is written as the word for true. -/
theorem literal?_iff_of_word : ∃ text,
    Dialect.literalText { standard with radix := 36 } .long (.long ⟨1389110, by decide, by decide⟩) =
        .ok text ∧
      ((Dialect.literal? { standard with radix := 36 } text).map Tree.ofValue =
          some (.literal .long (.long ⟨1389110, by decide, by decide⟩)) ↔
        ∀ other ∈ (Dialect.word? { standard with radix := 36 } text).or
          (Dialect.temporal? { standard with radix := 36 } text),
          other = .long ⟨1389110, by decide, by decide⟩) :=
  @literal?_iff_of_simple { standard with radix := 36 } (.long _) (by decide)

/-- A dialect whose dates are digits alone passes its check, and a long of eight digits is written as one
of them. -/
theorem exists_misread : ∃ dialect : Dialect, dialect.checked = .ok dialect ∧ ∃ n : Long,
    dialect.literalText .long (.long n) = .ok "20200102".toList ∧
      dialect.literal? "20200102".toList = some (.date ⟨2020, 1, 2, by decide⟩) := by
  refine ⟨{ standard with datePattern := "%Y%m%d" }, ?_, ⟨20200102, by decide, by decide⟩, ?_, ?_⟩
  · have flawless : Dialect.flaw? { standard with datePattern := "%Y%m%d" } = none := by decide +kernel
    rw [checked, flawless]
  · rfl
  · decide +kernel

end Dialect

/-- A pattern is marked by a character that no numeral has, or by two minus signs. -/
def PatternItem.isMarked (items : List PatternItem) : Bool :=
  items.any fun item => match item with
    | .literal c => !Text.isWordChar c && (c != '-' || 2 ≤ items.count item)
    | _ => false

/-- The only character of a numeral besides digits and letters is one minus sign. -/
theorem Long.count_numeral_le (n : Long) (radix : Nat) {c : Char} (noWord : Text.isWordChar c = false) :
    (n.numeral radix).count c ≤ if c = '-' then 1 else 0 := by
  obtain ⟨atLeast, atMost⟩ := Numeral.usableRadix_bounds radix
  have unsigned (size : Nat) : (Numeral.ofNat (Numeral.usableRadix radix) size).count c = 0 :=
    List.count_eq_zero.mpr fun member =>
      absurd (Numeral.isWordChar_of_mem_ofNat atLeast atMost size c member) (Bool.eq_false_iff.mp noWord)
  rw [numeral, Numeral.ofInt]
  split
  · simp only [List.count_cons, unsigned, beq_iff_eq, Nat.zero_add, eq_comm (a := c)]
    exact Nat.le_refl _
  · rw [unsigned]
    exact Nat.zero_le _

namespace Dialect

/-- The words differ, none of them is a numeral, and all patterns are marked. -/
def isApart (dialect : Dialect) : Bool :=
  !Text.sameSpelling dialect.falseSpelling.toList dialect.trueSpelling.toList &&
    !Text.sameSpelling dialect.nullSpelling.toList dialect.trueSpelling.toList &&
    !Text.sameSpelling dialect.nullSpelling.toList dialect.falseSpelling.toList &&
    ([dialect.trueSpelling, dialect.falseSpelling, dialect.nullSpelling].all fun spelling =>
      (Long.ofNumeral? dialect.radix spelling.toList).isNone) &&
    ([Kind.dateTime, .date, .time].all fun kind =>
      (PatternItem.ofPattern? (dialect.pattern kind).toList).any PatternItem.isMarked)

variable {dialect : Dialect} {value : Value}

/-- A numeral is no date and no time where all patterns are marked. -/
theorem temporal?_numeral (marked : ∀ kind ∈ [Kind.dateTime, .date, .time],
    (PatternItem.ofPattern? (dialect.pattern kind).toList).any PatternItem.isMarked = true) (n : Long)
    (radix : Nat) : dialect.temporal? (n.numeral radix) = none := by
  refine Option.eq_none_iff_forall_ne_some.mpr fun value read => ?_
  obtain ⟨kind, member, read⟩ := List.exists_of_findSome?_eq_some read
  obtain ⟨items, known, read⟩ := Option.bind_eq_some_iff.mp read
  obtain ⟨fields, states, _⟩ := Option.bind_eq_some_iff.mp read
  have mark := marked kind member
  rw [known, Option.any_some, PatternItem.isMarked, List.any_eq_true] at mark
  obtain ⟨item, inside, mark⟩ := mark
  split at mark
  · next c =>
    rw [Bool.and_eq_true, Bool.not_eq_true', Bool.or_eq_true, bne_iff_ne, decide_eq_true_eq] at mark
    obtain ⟨noWord, often⟩ := mark
    have least := PatternItem.count_le_of_readAll? (fun item _ => item.read_leaves.takes) states c
    have most := n.count_numeral_le radix noWord
    have once : 0 < items.count (.literal c) := List.count_pos_iff.mpr inside
    split at most
    · next minus => exact absurd (often.resolve_left fun other => other minus) (by omega)
    · omega
  · cases mark

/-- Where the words differ, none of them is a numeral and all patterns are marked, null, the truth values
and the longs are written as literals that are read back. -/
theorem literal?_of_isApart (apart : dialect.isApart = true)
    (simple : value.kind ∈ [Kind.null, .boolean, .long]) :
    ∃ text, dialect.literalText value.kind value = .ok text ∧ dialect.literal? text = some value := by
  simp only [isApart, Bool.and_eq_true, Bool.not_eq_true', List.all_eq_true] at apart
  obtain ⟨⟨⟨⟨falseTrue, nullTrue⟩, nullFalse⟩, numberless⟩, marked⟩ := apart
  have same (text : List Char) : Text.sameSpelling text text = true := BEq.rfl
  obtain ⟨text, written, spelled, read⟩ := @exists_literalText dialect value simple
  refine ⟨text, written, read.trans ?_⟩
  cases value with
  | null =>
    obtain rfl := Except.ok.inj spelled
    rw [word?, nullTrue, nullFalse, same]
    rfl
  | boolean truth =>
    cases truth with
    | true =>
      obtain rfl := Except.ok.inj spelled
      rw [word?, same]
      rfl
    | false =>
      obtain rfl := Except.ok.inj spelled
      rw [word?, falseTrue, same]
      rfl
  | long n =>
    obtain rfl := Except.ok.inj spelled
    have wordless : dialect.word? (n.numeral dialect.radix) = none := by
      have other (spelling : String)
          (member : spelling ∈ [dialect.trueSpelling, dialect.falseSpelling, dialect.nullSpelling]) :
          Text.sameSpelling (n.numeral dialect.radix) spelling.toList = false :=
        Bool.eq_false_iff.mpr fun same => by
          have number := numberless spelling member
          rw [← Long.ofNumeral?_of_sameSpelling same, Long.ofNumeral?_numeral] at number
          cases number
      rw [word?, other _ (by simp), other _ (by simp), other _ (by simp)]
      rfl
    rw [wordless, temporal?_numeral marked]
    rfl
  | _ => exact absurd simple (by simp [Value.kind])

example : standard.isApart = true := by decide +kernel

end Dialect

end Reckoner
