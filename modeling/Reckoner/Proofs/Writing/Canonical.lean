import Reckoner.Proofs.Grammar.Precedence
import Reckoner.Proofs.Writing.Sayable

/-! # Canonical texts

An expression that was read is made of literals that can be written, of names and functions that are
registered, and of operators that accept their operands. So what is written for it is read back, unless
an operator stands directly below one that binds tighter: a block around another operand can then let the
looser operator take the text.
-/

namespace Reckoner

namespace Double

/-- No quotient is rounded to a NaN. -/
theorem isNaN_nearest (numerator denominator : Nat) : (nearest numerator denominator).isNaN = false := by
  unfold nearest
  split
  · rfl
  · rw [isNaN, decide_eq_false_iff_not, Nat.not_lt, magnitude]
    refine Nat.le_trans (Nat.mod_le ..) ?_
    rw [UInt64.toNat_ofNat']
    exact Nat.le_trans (Nat.mod_le ..) (Nat.min_le_left ..)

/-- Decimals are numbers. -/
theorem isNaN_of_readDecimal? {text : List Char} {x : Double} (read : readDecimal? text = some x) :
    x.isNaN = false := by
  have number (digits : Nat) (exponent : Int) : (ofDecimal digits exponent).isNaN = false := by
    unfold ofDecimal
    split
    · rfl
    · simp only
      split
      · rfl
      · split
        · rfl
        · exact isNaN_nearest ..
  unfold readDecimal? at read
  simp only at read
  split at read
  all_goals
    split at read
    · cases read
    · split at read
      · exact Option.some.inj read ▸ number ..
      · split at read
        · obtain ⟨_, _, same⟩ := Option.bind_eq_some_iff.mp read
          exact Option.some.inj same ▸ number ..
        · cases read

end Double

namespace Engine

/-- Whatever the case of its letters, the word for a NaN denotes it. -/
theorem literal?_of_nan {text : List Char} (spelled : text.map Char.toLower = ['n', 'a', 'n']) :
    (text ≠ [] ∧ ∀ c ∈ text, Text.isWordChar c = true) ∧ nameKey text ∈ measureKeys ∧
      Dialect.standard.literal? text = some (.double Double.nan) := by
  have letter {low c : Char} (high : Char) (checked : ∀ n < 0x80, (Char.ofNat n).toLower = low →
      Char.ofNat n = low ∨ Char.ofNat n = high) (word : Text.isWordChar low = true)
      (same : c.toLower = low) : c = low ∨ c = high :=
    Text.forall_ascii (fun c => c.toLower = low → c = low ∨ c = high) checked
      (Text.ascii_of_isWordChar (Text.isWordChar_toLower c ▸ same ▸ word)) same
  obtain ⟨a, rest, rfl, first, spelled⟩ := List.map_eq_cons_iff.mp spelled
  obtain ⟨b, rest, rfl, second, spelled⟩ := List.map_eq_cons_iff.mp spelled
  obtain ⟨c, rest, rfl, third, spelled⟩ := List.map_eq_cons_iff.mp spelled
  obtain rfl := List.map_eq_nil_iff.mp spelled
  rcases letter 'N' (by decide +kernel) (by decide) first with rfl | rfl <;>
    rcases letter 'A' (by decide +kernel) (by decide) second with rfl | rfl <;>
    rcases letter 'N' (by decide +kernel) (by decide) third with rfl | rfl <;>
    decide +kernel

variable {engine : Engine} {base : Tag} {text : List Char}

/-- A text that is read as a literal denotes its value, and no operator takes it. -/
theorem skips_of_parse_literal {kind : Kind} {value : Value}
    (read : engine.parse text = .ok (.literal kind value)) : kind = value.kind ∧
      engine.dialect.literal? (Text.trim text) = some value ∧
      ∀ entry ∈ engine.operators, entry.Skips engine (Text.trim text) := by
  have bare := bare_of_parse read fun _ other => by cases other
  have nameless {tree : Tree} (named : engine.named? (Text.trim text) = some tree) :
      tree ≠ .literal kind value := by
    rintro rfl
    rcases Option.or_eq_some_iff.mp named with constant | ⟨_, input⟩
    · obtain ⟨_, _, other⟩ := Option.map_eq_some_iff.mp constant
      cases other
    · obtain ⟨_, _, other⟩ := Option.map_eq_some_iff.mp input
      cases other
  have unnamed : engine.named? (Text.trim text) = none := by
    cases named : engine.named? (Text.trim text) with
    | none => rfl
    | some tree =>
      exact absurd (Except.ok.inj ((parse_name bare named).symm.trans read)) (nameless named)
  have denotes : kind = value.kind ∧ engine.dialect.literal? (Text.trim text) = some value := by
    generalize same : Tree.literal kind value = tree at read
    cases makes_of_parse read with
    | block | operation | call => cases same
    | name named => exact absurd same.symm (nameless named)
    | literal written =>
      obtain ⟨rfl, rfl⟩ := Tree.literal.inj same
      exact ⟨rfl, written⟩
  refine ⟨denotes.1, denotes.2, fun entry registered operands takes => ?_⟩
  obtain ⟨_, _, _, _, _, _, _, _, other⟩ := exists_parse_of_takes bare unnamed registered takes
  cases other.symm.trans read

namespace Legible

variable (legible : engine.Legible base)

include legible

/-- A number behind a sign is no literal, since the sign is a negation of the number. -/
theorem not_signed {rest : List Char} {value : Value} (solid : Text.Solid rest)
    (unnamed : rest.head? ≠ some '(' ∧ engine.named? rest = none ∧ engine.call? rest = none)
    (denotes : Dialect.standard.literal? rest = some value) (numeric : value.kind ∈ [Kind.long, .double])
    (skips : ∀ entry ∈ engine.operators, entry.Skips engine ('-' :: rest)) : False := by
  have ordinary := legible.toOrdinary
  have reads : engine.ReadsAs .double rest := by
    refine ⟨_, legible.parse_value solid unnamed denotes, ?_⟩
    have all : ∀ kind ∈ [Kind.long, .double], Kind.takes .double kind = true := by decide
    exact all _ numeric
  have registered := Library.mem_negation base
  obtain ⟨operands, takes⟩ := (OperatorEntry.exists_takes_of_prefixes ordinary registered
    OperatorKind.prefixes_negation).mpr ⟨rest, rfl, reads⟩
  exact skips _ (ordinary.operators ▸ registered) operands takes

/-- Digits behind a sign are no literal. -/
theorem not_signed_digits {rest : List Char} (spelled : rest ≠ [])
    (digits : ∀ c ∈ rest, c.isDigit = true)
    (skips : ∀ entry ∈ engine.operators, entry.Skips engine ('-' :: rest)) : False := by
  have counted := Text.counted_of_digits spelled digits
  have decimal : Double.read? rest = some (Double.ofDecimal (digitsValue rest) 0) := by
    obtain ⟨c, more, rfl⟩ := List.exists_cons_of_ne_nil spelled
    rw [Double.read?_of_isDigit (digits c (List.mem_cons_self ..)), Double.readDecimal?,
      spanDigits_of_digits digits]
    simp only [List.append_nil]
    rfl
  have number : ∃ value, Dialect.standard.number? rest = some value := by
    rw [Dialect.number?, decimal]
    cases (Long.ofNumeral? Dialect.standard.radix rest).map Value.long with
    | none => exact ⟨_, rfl⟩
    | some value => exact ⟨value, rfl⟩
  obtain ⟨value, number⟩ := number
  exact legible.not_signed counted.solid (legible.named?_of_unnamed counted.unnamed)
    (Dialect.literal?_of_digits spelled digits number)
    (Dialect.isPlainChar_or_isSign_of_number? number).2 skips

/-- The least long is no literal. -/
theorem sayable_of_numeral {n : Long} (read : Long.ofNumeral? 10 text = some n)
    (skips : ∀ entry ∈ engine.operators, entry.Skips engine text) : n.neg?.isSome = true := by
  obtain ⟨size, numeral, bounded⟩ := Option.bind_eq_some_iff.mp read
  have value := Long.ofInt?_eq_some_iff.mp bounded
  have opposite (unsigned : 0 ≤ n.val) : n.neg?.isSome = true := by
    have upper := n.upper
    refine Option.isSome_iff_exists.mpr ⟨⟨-n.val, by omega, by omega⟩, ?_⟩
    exact Long.ofInt?_eq_some_iff.mpr rfl
  have natural {text : List Char} (read : (Numeral.readNat? 10 text).map Int.ofNat = some size) :
      0 ≤ n.val := by
    obtain ⟨_, _, rfl⟩ := Option.map_eq_some_iff.mp read
    exact value ▸ Int.natCast_nonneg _
  rw [show Numeral.usableRadix 10 = 10 from rfl] at numeral
  unfold Numeral.readInt? at numeral
  split at numeral
  · next rest =>
    obtain ⟨_, size, _⟩ := Option.map_eq_some_iff.mp numeral
    obtain ⟨_, natural, _⟩ := Option.bind_eq_some_iff.mp size
    obtain ⟨spelled, digits⟩ := Numeral.exists_digit_of_readNat? natural
    refine (legible.not_signed_digits spelled (fun c member => ?_) skips).elim
    obtain ⟨_, small, found⟩ := digits c member
    exact Numeral.isDigit_of_digitValue? found small
  · exact opposite (natural numeral)
  · exact opposite (natural numeral)

/-- A NaN with a sign is no literal. -/
theorem sayable_of_read? {x : Double} (unmeasured : engine.Unmeasured)
    (read : Double.read? text = some x) (nan : x.isNaN = true)
    (skips : ∀ entry ∈ engine.operators, entry.Skips engine text) : x = Double.nan := by
  have unsigned {text : List Char} {x : Double} (read : Double.readSize? text = some x)
      (nan : x.isNaN = true) : text.map Char.toLower = ['n', 'a', 'n'] ∧ x = Double.nan := by
    unfold Double.readSize? at read
    simp only at read
    split at read
    · next spelled => exact ⟨spelled, (Option.some.inj read).symm⟩
    · split at read
      · obtain rfl := Option.some.inj read
        exact absurd nan (by decide)
      · rw [Double.isNaN_of_readDecimal? read] at nan
        exact absurd nan Bool.false_ne_true
  unfold Double.read? at read
  split at read
  · next rest =>
    obtain ⟨y, size, rfl⟩ := Option.map_eq_some_iff.mp read
    obtain ⟨spelled, rfl⟩ := unsigned size (Double.neg_ne.2 ▸ nan)
    obtain ⟨⟨spelled, word⟩, key, denotes⟩ := literal?_of_nan spelled
    exact (legible.not_signed (Text.solid_of_word spelled word)
      (legible.named?_of_measure unmeasured word key) denotes (by decide) skips).elim
  · exact (unsigned read nan).2
  · exact (unsigned read nan).2

/-- What is read as a literal can be written. -/
theorem sayable_of_parse {kind : Kind} {value : Value} (unmeasured : engine.Unmeasured)
    (read : engine.parse text = .ok (.literal kind value)) : kind = value.kind ∧ value.Sayable := by
  obtain ⟨same, written, skips⟩ := skips_of_parse_literal read
  refine ⟨same, ?_⟩
  rw [legible.dialect] at written
  unfold Dialect.literal? at written
  split at written
  · exact Option.some.inj written ▸ trivial
  · split at written
    · exact Option.some.inj written ▸ trivial
    · split at written
      · exact Option.some.inj written ▸ trivial
      · rcases Option.or_eq_some_iff.mp written with temporal | ⟨_, written⟩
        · obtain ⟨timed, momentary⟩ := Dialect.fraction_of_temporal? temporal
          have kinds := (Dialect.isPlainChar_or_isSign_of_temporal? temporal).2.1
          cases value with
          | time clock => exact timed clock rfl
          | dateTime moment => exact momentary moment rfl
          | date => exact trivial
          | _ => exact absurd kinds (by rw [Value.kind]; decide)
        · rcases Option.or_eq_some_iff.mp written with number | ⟨_, quoted⟩
          · rcases Option.or_eq_some_iff.mp number with long | ⟨_, double⟩
            · obtain ⟨n, numeral, rfl⟩ := Option.map_eq_some_iff.mp long
              exact legible.sayable_of_numeral numeral skips
            · obtain ⟨x, decimal, rfl⟩ := Option.map_eq_some_iff.mp double
              exact fun nan => legible.sayable_of_read? unmeasured decimal nan skips
          · obtain ⟨inner, content, rfl⟩ := Option.map_eq_some_iff.mp quoted
            unfold Dialect.quotedText? at content
            split at content
            · cases content
            · split at content
              · next ends =>
                obtain rfl := Option.some.inj content
                obtain ⟨_, _, unclosed⟩ := ends
                rw [Bool.not_eq_true', ← Bool.not_eq_true, List.contains_iff_mem] at unclosed
                rw [Value.Sayable, String.toList_ofList]
                exact unclosed
              · cases content

end Legible

end Engine

/-- What is found in a register has a name there. -/
theorem Register.isSome_nameOf? {α : Type} [DecidableEq α] {register : Register α} {item : α}
    {text : List Char} (found : register.find? text = some item) :
    (register.nameOf? item).isSome = true := by
  obtain ⟨entry, present, rfl⟩ := Option.map_eq_some_iff.mp found
  rw [nameOf?, Option.isSome_map, List.find?_isSome]
  exact ⟨entry, List.mem_of_find?_eq_some present, beq_self_eq_true _⟩

namespace Engine

variable {engine : Engine} {base : Tag} {text : List Char}

/-- An operator that accepts its operands binds an operand if it binds the operation that the operand may be. -/
theorem deeper_of_accepted {entry : OperatorEntry} {operands : List Tree} {operand : Tree}
    (accepted : entry.operator.accepts operands = true) (member : operand ∈ operands)
    (exact : ∀ kind value, operand = .literal kind value → kind = value.kind)
    (bound : ∀ inner others, operand = .operation inner others → entry.level < inner.kind.level ∨
      entry.operator.kind.isUnary = true ∧ entry.level = inner.kind.level ∨
        entry.operator.kind.isUnary = false ∧ inner.kind.level = 2) :
    (entry.level < operand.level ∨ entry.operator.kind.isUnary = true ∧ entry.level = operand.level ∨
      entry.operator.kind.isUnary = false ∧ operand.level = 2) ∧
      (entry.level = 9 → operand.level ≠ 10) := by
  have declared : operand.kind ∈ Tree.kinds operands := by
    rw [Tree.kinds_eq_map]
    exact List.mem_map_of_mem member
  constructor
  · cases operand with
    | operation inner others => exact bound inner others rfl
    | literal kind value =>
      obtain rfl := exact kind value rfl
      cases year : value.hasSignedYear with
      | false =>
        rw [Tree.level_literal year]
        exact .inl entry.operator.kind.level_lt
      | true =>
        have level : (Tree.literal value.kind value).level = 9 := by rw [Tree.level, if_pos year]
        rw [level]
        refine .inl (Nat.lt_of_not_le fun tight => ?_)
        have numeric := OperatorKind.mem_of_accepts tight accepted _ declared
        cases value with
        | date | dateTime => exact absurd numeric (by rw [Tree.kind, Value.kind]; decide)
        | _ => cases year
    | _ => exact .inl entry.operator.kind.level_lt
  · intro nine ten
    cases operand with
    | operation inner others =>
      have text : (Tree.operation inner others).kind = .string := by
        rw [Tree.kind, OperatorKind.eq_concatenation_of_level ten]
        rfl
      rw [Operator.accepts, OperatorKind.eq_addition_of_level nine] at accepted
      have takes := Kind.takesAll_iff.mp (Bool.and_eq_true_iff.mp accepted).2 _ declared
      rw [text] at takes
      exact absurd takes (by decide)
    | literal kind value =>
      rw [Tree.level] at ten
      split at ten <;> exact absurd ten (by decide)
    | _ => exact absurd (show 16 = 10 from ten) (by decide)

namespace Ordinary

variable (ordinary : engine.Ordinary base)

include ordinary

/-- An operator directly below another one that is read is read from one of the fragments. -/
theorem exists_nests {entry : OperatorEntry} {operands others : List Tree} {inner : Operator}
    (tops : engine.Tops base entry (Text.trim text) operands)
    (member : .operation inner others ∈ operands) : ∃ other part, other.operator = inner ∧
      other ∈ Library.operators base ∧ engine.Nests base entry other (Text.trim text) part := by
  obtain ⟨⟨parts, split, readParts⟩, _⟩ := tops.takes
  obtain ⟨part, place, readPart⟩ := exists_part_of_readsAll readParts member
  obtain ⟨other, topsToo, rfl⟩ := ordinary.tops_of_parse readPart
  exact ⟨other, part, rfl, topsToo.registered, Text.trim_trim text,
    ⟨operands, parts, tops, split, readParts, place⟩, others, topsToo, readPart⟩

/-- An operator in a row of operands is not directly below itself. -/
theorem ne_of_nests {outer inner : OperatorEntry} {part : List Char}
    (nests : engine.Nests base outer inner text part)
    (between : outer.operator.kind.isUnary = false) : outer ≠ inner := by
  rintro rfl
  obtain ⟨_, ⟨_, parts, tops, split, _, place⟩, _, topsToo, _⟩ := nests
  have isToken := outer.operator.kind.isToken
  obtain ⟨⟨fragments, splitToo, _⟩, _⟩ := topsToo.takes
  rw [ordinary.dialect, OperatorEntry.fragments?_of_between tops.registered between] at split splitToo
  have uncut := Dialect.cut?_of_mem_split? isToken split place
  obtain ⟨lead, trail, same, blank, _⟩ := Text.exists_trim part
  rw [same] at uncut
  have uncutToo := Dialect.cut?_eq_none_of_part isToken lead uncut
    (Dialect.scan_of_plain (fun c member => Dialect.isDelimiter_of_isBlank (blank c member)) _)
  rw [Dialect.split?, uncutToo] at splitToo
  cases splitToo

/-- No addition accepts what a concatenation is read with. -/
theorem unadded_of_tops {entry other : OperatorEntry} {operands : List Tree}
    (tops : engine.Tops base entry text operands) (ten : entry.level = 10)
    (present : other ∈ Library.operators base) (nine : other.level = 9) :
    other.operator.accepts operands = false := by
  obtain ⟨⟨parts, split, read⟩, _⟩ := tops.takes
  have concatenation := OperatorKind.eq_concatenation_of_level ten
  have addition := OperatorKind.eq_addition_of_level nine
  have fragments : other.fragments? engine.dialect text = entry.fragments? engine.dialect text := by
    rw [ordinary.dialect, OperatorEntry.fragments?_of_between present (by rw [addition]; rfl),
      OperatorEntry.fragments?_of_between tops.registered (by rw [concatenation]; rfl), addition,
      concatenation]
    rfl
  refine Bool.eq_false_iff.mpr fun accepted => ?_
  exact tops.skipped other present (by omega) operands ⟨⟨parts, fragments.trans split, read⟩, accepted⟩

/-- An operator that is read binds its operands, unless one of them is an operator registered earlier. -/
theorem binds_of_tops {entry : OperatorEntry} {operands : List Tree}
    (tops : engine.Tops base entry (Text.trim text) operands)
    (exact : ∀ kind value, .literal kind value ∈ operands → kind = value.kind)
    (ordered : ∀ inner others, .operation inner others ∈ operands →
      entry.level ≤ inner.kind.level ∨ inner.kind = .not) : Binds base entry operands := by
  have accepted := tops.takes.2
  have each (operand : Tree) (member : operand ∈ operands) := deeper_of_accepted accepted member
    (fun kind value same => exact kind value (same ▸ member)) fun inner others same => by
      subst same
      obtain ⟨other, part, rfl, registered, nests⟩ := ordinary.exists_nests tops member
      rcases Nat.lt_trichotomy entry.level other.level with below | same | above
      · exact .inl below
      · obtain rfl := Library.eq_of_level_eq tops.registered registered same
        cases unary : entry.operator.kind.isUnary with
        | true => exact .inr (.inl ⟨rfl, rfl⟩)
        | false => exact absurd rfl (ordinary.ne_of_nests nests unary)
      · have negation : other.operator.kind = .not :=
          (ordered _ _ member).resolve_left (Nat.not_le_of_lt above)
        have level : other.level = 2 := by rw [OperatorEntry.level, negation]; rfl
        have loose := nests.lt_of_lt (by omega)
        refine .inr (.inr ⟨?_, level⟩)
        rw [level] at above
        unfold OperatorEntry.level at above loose
        cases sort : entry.operator.kind with
        | not => rw [sort] at above; exact absurd above (by decide)
        | square | negation => rw [sort] at loose; exact absurd loose (by decide)
        | _ => rfl
  exact ⟨accepted, fun ten other present nine => ordinary.unadded_of_tops tops ten present nine,
    fun operand member => (each operand member).1, fun operand member => (each operand member).2⟩

end Ordinary

/-- Operators directly below an operator are registered no earlier than that one, but for negations. -/
def Ordered (engine : Engine) (tree : Tree) : Prop := ∀ outer operands inner others,
  Tree.Within (.operation outer operands) tree → .operation inner others ∈ operands →
    inner.kind = .not ∨ ∃ above below, engine.positionOf? outer = some above ∧
      engine.positionOf? inner = some below ∧ above ≤ below

/-- A name or the name of a function is registered, and a function accepts its operands. -/
def Named (engine : Engine) : Tree → Prop
  | .constant item => (engine.constants.nameOf? item).isSome = true
  | .input item => (engine.inputs.nameOf? item).isSome = true
  | .call function operands =>
    (engine.functions.nameOf? function).isSome = true ∧ function.accepts operands = true
  | _ => True

/-- What is read under a name is registered under one. -/
theorem named_of_parse {tree : Tree} (read : engine.parse text = .ok tree) : engine.Named tree := by
  cases makes_of_parse read with
  | name makes =>
    rcases Option.or_eq_some_iff.mp makes with constant | ⟨_, input⟩
    · obtain ⟨_, found, rfl⟩ := Option.map_eq_some_iff.mp constant
      exact Register.isSome_nameOf? found
    · obtain ⟨_, found, rfl⟩ := Option.map_eq_some_iff.mp input
      exact Register.isSome_nameOf? found
  | call called _ accepted =>
    obtain ⟨_, _, called⟩ := Option.bind_eq_some_iff.mp called
    obtain ⟨_, found, same⟩ := Option.bind_eq_some_iff.mp called
    obtain ⟨rfl, _⟩ := Prod.mk.inj (Option.some.inj same)
    exact ⟨Register.isSome_nameOf? found, accepted⟩
  | block | operation | literal => exact trivial

/-- All parts of an expression that is read can be written, if its operators are in order. -/
theorem Legible.signable_of_parse (legible : engine.Legible base) (unmeasured : engine.Unmeasured)
    {tree : Tree} (read : engine.parse text = .ok tree) (ordered : engine.Ordered tree) :
    ∀ part, Tree.Within part tree → engine.Signable base part := by
  have ordinary := legible.toOrdinary
  intro part within
  obtain ⟨own, success⟩ := exists_parse_of_within within read
  cases part with
  | literal kind value =>
    obtain ⟨same, sayable⟩ := legible.sayable_of_parse unmeasured success
    exact ⟨same, legible.saysSigned_of_sayable unmeasured sayable⟩
  | constant | input | call => exact named_of_parse success
  | operation operator operands =>
    obtain ⟨entry, tops, rfl⟩ := ordinary.tops_of_parse success
    refine ⟨entry, tops.registered, rfl, ordinary.binds_of_tops tops (fun kind value member => ?_) ?_⟩
    · obtain ⟨_, literal⟩ := exists_parse_of_within (.trans (.operand member) within) read
      exact (legible.sayable_of_parse unmeasured literal).1
    · intro inner others member
      rcases ordered _ _ _ _ within member with negation | ⟨above, below, place, placeToo, atLeast⟩
      · exact .inr negation
      · obtain ⟨other, _, rfl, registered, _⟩ := ordinary.exists_nests tops member
        rw [ordinary.positionOf?_eq tops.registered] at place
        rw [ordinary.positionOf?_eq registered] at placeToo
        obtain rfl := Option.some.inj place
        obtain rfl := Option.some.inj placeToo
        exact .inl atLeast
  | block => exact trivial

/-- The words for doubles name nothing if no variable is called by them. -/
theorem unmeasured_withVariables {base : Tag} {now : DateTime} {items : List (String × Variable)}
    (identifiers : ∀ entry ∈ items, isIdentifier entry.1 = true)
    (clear : ∀ entry ∈ items, nameKey entry.1.toList ∉ reservedKeys ++ measureKeys) :
    (withVariables base now items).Unmeasured := fun _ measure =>
  named?_withVariables identifiers (fun entry member key => clear entry member (List.mem_append_right _ key))
    (by decide) measure

/-- What is written for an expression that was read, its operators in order, is read as an expression of
the same kind with the same outcomes. -/
theorem outcome_of_parse_format {base : Tag} {now : DateTime} {items : List (String × Variable)}
    (identifiers : ∀ entry ∈ items, isIdentifier entry.1 = true)
    (clear : ∀ entry ∈ items, nameKey entry.1.toList ∉ reservedKeys ++ measureKeys)
    {text : List Char} {tree : Tree} (read : (withVariables base now items).parse text = .ok tree)
    (ordered : (withVariables base now items).Ordered tree) :
    ∃ written back, (withVariables base now items).format tree = .ok written ∧
      (withVariables base now items).parse written = .ok back ∧ back.kind = tree.kind ∧
      ∀ document, back.outcome document = tree.outcome document := by
  have legible : (withVariables base now items).Legible base := legible_withVariables identifiers
    fun entry member key => clear entry member (List.mem_append_left _ key)
  have unmeasured : (withVariables base now items).Unmeasured := unmeasured_withVariables identifiers clear
  obtain ⟨written, back, formatted, readBack, alike⟩ :=
    legible.exists_parse_of_signable (legible.signable_of_parse unmeasured read ordered)
  exact ⟨written, back, formatted, readBack, alike.kind, alike.outcome⟩

/-- An expression is in order if the places of its operators, listed from the outside in, are. -/
theorem ordered_of_nestings {engine : Engine} {tree : Tree}
    (all : ∀ pair ∈ tree.parts.flatMap engine.nestings, ∃ above below,
      pair = (some above, some below) ∧ above ≤ below) : engine.Ordered tree := by
  intro outer operands inner others within member
  refine .inr ?_
  have listed : (engine.positionOf? outer, engine.positionOf? inner) ∈
      engine.nestings (.operation outer operands) := List.mem_filterMap.mpr ⟨_, member, rfl⟩
  obtain ⟨above, below, same, atLeast⟩ := all _ (List.mem_flatMap.mpr ⟨_, within.mem_parts, listed⟩)
  obtain ⟨place, placeToo⟩ := Prod.mk.inj same
  exact ⟨above, below, place, placeToo, atLeast⟩

/-- A product with a sign keeps its outcomes. -/
theorem outcome_of_parse_format_of_product :
    ∃ tree written back,
      (withVariables 0 ⟨Date.epoch, Time.midnight⟩ [("x", ⟨0, "/x", .long⟩)]).parse
          "2 * -x".toList = .ok tree ∧
        (withVariables 0 ⟨Date.epoch, Time.midnight⟩ [("x", ⟨0, "/x", .long⟩)]).format tree =
          .ok written ∧
        (withVariables 0 ⟨Date.epoch, Time.midnight⟩ [("x", ⟨0, "/x", .long⟩)]).parse written =
          .ok back ∧ back.kind = tree.kind ∧
        ∀ document, back.outcome document = tree.outcome document := by
  have reads : ((withVariables 0 ⟨Date.epoch, Time.midnight⟩ [("x", ⟨0, "/x", .long⟩)]).parse
      "2 * -x".toList).toOption.map (fun tree => tree.parts.flatMap
        (withVariables 0 ⟨Date.epoch, Time.midnight⟩ [("x", ⟨0, "/x", .long⟩)]).nestings) =
      some [(some 12, some 15)] := by decide +kernel
  obtain ⟨tree, success, nested⟩ := Option.map_eq_some_iff.mp reads
  have read := Except.toOption_eq_some_iff.mp success
  have ordered : (withVariables 0 ⟨Date.epoch, Time.midnight⟩ [("x", ⟨0, "/x", .long⟩)]).Ordered
      tree := by
    refine ordered_of_nestings ?_
    rw [nested]
    exact List.forall_mem_singleton.mpr ⟨12, 15, rfl, by decide⟩
  obtain ⟨written, back, formatted, readBack, same⟩ :=
    outcome_of_parse_format (by decide) (by decide) read ordered
  exact ⟨tree, written, back, read, formatted, readBack, same⟩

/-- A difference below a product changes its outcome: the block around the second factor lets the
difference take the text. -/
theorem exists_other_outcome : ∃ tree written back,
    (standard 0 ⟨Date.epoch, Time.midnight⟩).parse "1 - 2 * -3".toList = .ok tree ∧
      (standard 0 ⟨Date.epoch, Time.midnight⟩).format tree = .ok written ∧
      (standard 0 ⟨Date.epoch, Time.midnight⟩).parse written = .ok back ∧
      tree.outcome none = .ok (.long ⟨3, by decide, by decide⟩) ∧
      back.outcome none = .ok (.long ⟨7, by decide, by decide⟩) := by
  have reads : (((standard 0 ⟨Date.epoch, Time.midnight⟩).parse "1 - 2 * -3".toList).toOption.bind
      fun tree => ((standard 0 ⟨Date.epoch, Time.midnight⟩).format tree).toOption.bind
        fun written => ((standard 0 ⟨Date.epoch, Time.midnight⟩).parse written).toOption.map
          fun back => ((tree.outcome none).toOption, (back.outcome none).toOption)) =
      some (some (.long ⟨3, by decide, by decide⟩), some (.long ⟨7, by decide, by decide⟩)) := by
    decide +kernel
  obtain ⟨tree, read, reads⟩ := Option.bind_eq_some_iff.mp reads
  obtain ⟨written, formatted, reads⟩ := Option.bind_eq_some_iff.mp reads
  obtain ⟨back, readBack, same⟩ := Option.map_eq_some_iff.mp reads
  obtain ⟨three, seven⟩ := Prod.mk.inj same
  exact ⟨tree, written, back, Except.toOption_eq_some_iff.mp read,
    Except.toOption_eq_some_iff.mp formatted, Except.toOption_eq_some_iff.mp readBack,
    Except.toOption_eq_some_iff.mp three, Except.toOption_eq_some_iff.mp seven⟩

end Engine

end Reckoner
