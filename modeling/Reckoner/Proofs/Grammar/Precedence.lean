import Reckoner.Proofs.Expression
import Reckoner.Proofs.Grammar.Connective
import Reckoner.Proofs.Grammar.Numeric

/-! # Registration order as precedence

An operator that is an operand of another operator, with no block or call in between, is registered no
earlier than that one, with exceptions that can be listed: comparisons take negated and compared truth
values as operands, and where a sign keeps a sum or a difference from being cut, the operators behind
and in front of it are tried first. All other inversions are impossible, because the looser operator
would have taken the text that the tighter one is made of.
-/

namespace Reckoner

namespace Library

/-- The levels of an operator and of a looser one that may be its operand nevertheless. -/
def inversions : List (Nat × Nat) :=
  [(3, 2), (4, 2), (5, 2), (6, 2), (7, 2), (8, 2),
    (4, 3), (5, 3), (7, 3), (8, 3), (5, 4), (8, 4), (7, 5), (7, 6), (8, 6), (8, 7),
    (11, 9), (12, 9), (13, 9), (12, 11), (13, 11), (15, 11)]

end Library

namespace OperatorKind

variable {operator outer inner : OperatorKind}

/-- The loosest operators are the connectives. -/
theorem mem_token_of_level_le_one (loose : operator.level ≤ 1) :
    operator.level = 0 ∧ '|' ∈ operator.token ∨ operator.level = 1 ∧ '&' ∈ operator.token := by
  cases operator with
  | or => exact .inl ⟨rfl, List.mem_singleton_self _⟩
  | and => exact .inr ⟨rfl, List.mem_singleton_self _⟩
  | not => exact absurd loose (by decide)
  | comparison relation => cases relation <;> exact absurd loose (by decide)
  | _ => exact absurd loose (Nat.not_le_of_lt (Nat.le_of_ble_eq_true rfl))

/-- Of the negations and comparisons under a comparison only those are looser without being listed whose
tokens contain that of the comparison. -/
theorem mem_inversions_or_mem_token (looser : inner.level < outer.level) (atLeast : 2 ≤ inner.level)
    (atMost : outer.level < 9) : (outer.level, inner.level) ∈ Library.inversions ∨
      ∃ c ∈ inner.token, outer.token = [c] ∧ outer.isUnary = false := by
  cases outer with
  | or | and | not => exact absurd (Nat.lt_of_le_of_lt atLeast looser) (by decide)
  | comparison above =>
    cases inner with
    | or | and => exact absurd atLeast (by decide)
    | not => cases above <;> exact .inl (by decide)
    | comparison below =>
      cases above <;> cases below <;> first
        | exact absurd looser (by decide)
        | exact .inl (by decide)
        | exact .inr ⟨_, List.mem_cons_self .., rfl, rfl⟩
        | exact .inr ⟨_, List.mem_cons_of_mem _ (List.mem_cons_self ..), rfl, rfl⟩
    | _ => exact absurd (Nat.lt_trans looser atMost) (Nat.not_lt_of_le (Nat.le_of_ble_eq_true rfl))
  | _ => exact absurd atMost (Nat.not_lt_of_le (Nat.le_of_ble_eq_true rfl))

/-- The operators that chain numbers. -/
theorem exists_chains (numeric : operator.isNumeric = true) (between : operator.isUnary = false) :
    ∃ c, operator.Chains c .double ∧ c ≠ '²' ∧ (c = '-' → operator.level = 11) := by
  cases operator with
  | addition => exact ⟨'+', chains_addition, by decide, by decide⟩
  | subtraction add negate =>
    exact ⟨'-', chains_subtraction add negate, by decide, fun _ => rfl⟩
  | multiplication => exact ⟨'*', chains_multiplication, by decide, by decide⟩
  | division multiply =>
    exact ⟨'/', chains_division multiply, by decide, fun same => absurd same (by decide)⟩
  | square | negation => exact absurd between.symm Bool.false_ne_true
  | _ => exact absurd numeric Bool.false_ne_true

/-- The operators with one number as an operand are the square and the negation. -/
theorem eq_square_or_negation (numeric : operator.isNumeric = true) (unary : operator.isUnary = true) :
    operator = square ∨ operator = negation := by
  cases operator with
  | square => exact .inl rfl
  | negation => exact .inr rfl
  | addition | subtraction | multiplication | division => exact absurd unary Bool.false_ne_true
  | _ => exact absurd numeric Bool.false_ne_true

/-- Below a number two operators can only be registered in the wrong order if the outer one is a
sign or a square, or the inner one a sum, a difference or a product below a quotient. -/
theorem mem_inversions_or_eq (numeric : inner.isNumeric = true) (tight : outer.isNumeric = true)
    (looser : inner.level < outer.level) : (outer.level, inner.level) ∈ Library.inversions ∨
      outer = .square ∨ outer = .negation ∨
        inner = .multiplication ∧ ∃ multiply, outer = .division multiply := by
  cases outer with
  | square => exact .inr (.inl rfl)
  | negation => exact .inr (.inr (.inl rfl))
  | addition | subtraction | multiplication | division =>
    cases inner with
    | addition | subtraction | multiplication | division | square | negation =>
      first
      | exact .inl (by dsimp only [level]; decide)
      | exact .inr (.inr (.inr ⟨rfl, _, rfl⟩))
      | exact absurd looser (Nat.not_lt_of_le (Nat.le_of_ble_eq_true rfl))
    | _ => exact absurd numeric Bool.false_ne_true
  | _ => exact absurd tight Bool.false_ne_true

end OperatorKind

namespace Engine

variable {engine : Engine} {base : Tag}

/-- In a text that `outer` tops, `inner` tops one of the fragments. -/
structure Nests (engine : Engine) (base : Tag) (outer inner : OperatorEntry)
    (text part : List Char) : Prop where
  trimmed : Text.trim text = text
  outside : ∃ operands parts, engine.Tops base outer text operands ∧
    outer.fragments? engine.dialect text = some parts ∧ engine.ReadsAll parts operands ∧ part ∈ parts
  inside : ∃ operands, engine.Tops base inner (Text.trim part) operands ∧
    engine.parse part = .ok (.operation inner.operator operands)

namespace Ordinary

variable (ordinary : engine.Ordinary base)

include ordinary

/-- An operation that is read is made by an entry that tops its text. -/
theorem tops_of_parse {text : List Char} {operator : Operator} {operands : List Tree}
    (read : engine.parse text = .ok (.operation operator operands)) :
    ∃ entry, engine.Tops base entry (Text.trim text) operands ∧ entry.operator = operator := by
  generalize same : Tree.operation operator operands = tree at read
  cases makes_of_parse read with
  | block | call | literal => cases same
  | name named =>
    subst same
    rcases Option.or_eq_some_iff.mp named with constant | ⟨_, input⟩
    · obtain ⟨_, _, made⟩ := Option.map_eq_some_iff.mp constant
      cases made
    · obtain ⟨_, _, made⟩ := Option.map_eq_some_iff.mp input
      cases made
  | @operation before after entry others entries skipped takes =>
    obtain ⟨rfl, rfl⟩ := Tree.operation.inj same
    rw [ordinary.operators] at entries
    refine ⟨entry, ⟨?_, takes, fun other present below => ?_⟩, rfl⟩
    · rw [entries]
      exact List.mem_append_right _ (List.mem_cons_self ..)
    · exact skipped other ((Library.mem_before_iff entries).mpr ⟨present, below⟩)

end Ordinary

namespace Nests

variable {outer inner : OperatorEntry} {text part : List Char}
  (ordinary : engine.Ordinary base) (nests : engine.Nests base outer inner text part)

include ordinary nests

/-- The token of the inner operator is at the surface of the whole text. -/
theorem mem_surfaceChars : ∀ c ∈ inner.operator.kind.token, c ∈ Dialect.standard.surfaceChars text := by
  intro c member
  obtain ⟨_, ⟨_, parts, tops, split, read, place⟩, _, topsToo, _⟩ := nests
  have token := Library.mem_tokenChars c member
  have further :=
    OperatorEntry.mem_surfaceChars_of_takes ordinary topsToo.registered topsToo.takes c member
  rw [Dialect.mem_surfaceChars_trim (fun c => Dialect.isDelimiter_of_isBlank)
    (Library.isBlank_of_mem (Library.mem_marks token))] at further
  exact (OperatorEntry.mem_surfaceChars_iff ordinary tops.registered split read).mpr
    (.inr ⟨part, place, further⟩)

omit ordinary in
/-- The outer operator is on top because a looser one does not take the text. -/
theorem skips (looser : inner.level < outer.level) : inner.Skips engine text := by
  obtain ⟨_, ⟨_, _, tops, _⟩, _, topsToo, _⟩ := nests
  exact tops.skipped inner topsToo.registered looser

omit ordinary in
/-- The outer operator accepts what the inner one makes. -/
theorem exists_accepts : ∃ kinds others, outer.operator.kind.accepts kinds = true ∧
    inner.operator.kind.resultKind others ∈ kinds := by
  obtain ⟨_, ⟨operands, parts, tops, _, read, place⟩, others, _, success⟩ := nests
  obtain ⟨operand, member, successToo⟩ := exists_operand_of_readsAll read place
  obtain rfl := Except.ok.inj (success.symm.trans successToo)
  refine ⟨Tree.kinds operands, Tree.kinds others, tops.takes.2, ?_⟩
  rw [Tree.kinds_eq_map]
  exact List.mem_map_of_mem member

omit ordinary in
/-- No operator of a tighter level is directly above one that makes truth values. -/
theorem lt_of_lt (loose : inner.level < 9) : outer.level < 9 := by
  by_contra tight
  obtain ⟨kinds, others, accepted, member⟩ := nests.exists_accepts
  rw [OperatorKind.resultKind_of_level_lt loose] at member
  exact OperatorKind.ne_boolean_of_accepts (Nat.le_of_not_lt tight) accepted _ member rfl

/-- The fragments of a chain are those between its tokens. -/
theorem mem_slices {c : Char} (token : outer.operator.kind.token = [c])
    (between : outer.operator.kind.isUnary = false) :
    part ∈ Dialect.standard.slices (· == c) text := by
  obtain ⟨_, ⟨_, parts, tops, split, _, place⟩, _⟩ := nests
  rw [ordinary.dialect, OperatorEntry.fragments?_of_between tops.registered between, token,
    Dialect.split?_singleton_eq_some_iff (token ▸ outer.operator.kind.isToken)] at split
  exact split.2 ▸ place

/-- The token of a comparison is not part of that of an operator below it. -/
theorem not_mem_token {c : Char} (token : outer.operator.kind.token = [c])
    (between : outer.operator.kind.isUnary = false) : c ∉ inner.operator.kind.token := by
  intro member
  have present := nests.mem_slices ordinary token between
  obtain ⟨_, _, _, topsToo, _⟩ := nests
  have further :=
    OperatorEntry.mem_surfaceChars_of_takes ordinary topsToo.registered topsToo.takes c member
  have mark := Library.mem_marks (Library.mem_tokenChars c member)
  rw [Dialect.mem_surfaceChars_trim (fun c => Dialect.isDelimiter_of_isBlank)
    (Library.isBlank_of_mem mark)] at further
  exact absurd (beq_self_eq_true c)
    (Bool.eq_false_iff.mp (Dialect.uncut_of_mem_slices present c further))

/-- Looser operators below a connective, a negation or a comparison are among the inversions. -/
theorem mem_inversions_of_truth (loose : outer.level < 9) (looser : inner.level < outer.level) :
    (outer.level, inner.level) ∈ Library.inversions := by
  rcases Nat.lt_or_ge inner.level 2 with connective | atLeast
  · -- The connective would stand at the surface of a truth value, so it would be on top.
    have above : outer.level = 0 ∨ inner.level = 1 ∧ outer.level ≤ 1 := by
      have surface := nests.mem_surfaceChars ordinary
      obtain ⟨trimmed, ⟨operands, _, tops, _⟩, _⟩ := nests
      rw [← trimmed] at tops
      have reads := ordinary.readsAs_boolean tops.registered loose tops.takes
      obtain ⟨disjunction, conjunction⟩ := ordinary.level_of_connective reads tops
      rcases OperatorKind.mem_token_of_level_le_one (Nat.le_of_lt_succ connective) with
        ⟨_, token⟩ | ⟨one, token⟩
      · exact .inl (disjunction (surface _ token))
      · exact .inr ⟨one, conjunction (surface _ token)⟩
    omega
  · rcases OperatorKind.mem_inversions_or_mem_token looser atLeast loose with
      listed | ⟨c, member, token, between⟩
    · exact listed
    · exact absurd member (nests.not_mem_token ordinary token between)

section Numbers

variable (looser : inner.level < outer.level) {c : Char}
  (chains : inner.operator.kind.Chains c .double)

include looser chains

/-- No chain of numbers is below a square, for it would have the square as its last operand. -/
theorem ne_square (other : c ≠ '²') : outer.operator.kind ≠ .square := by
  intro square
  have token : c ∈ inner.operator.kind.token := chains.token ▸ List.mem_singleton_self c
  have surface := nests.mem_surfaceChars ordinary c token
  have skips := nests.skips looser
  obtain ⟨_, ⟨_, parts, tops, split, _, place⟩, others, topsToo, _⟩ := nests
  have unary : outer.operator.kind.isUnary = true := by rw [square]; rfl
  have suffix : outer.operator.kind.isSuffix = true := by rw [square]; rfl
  have behind : outer.operator.kind.token = ['²'] := by rw [square]; rfl
  rw [ordinary.dialect, OperatorEntry.fragments?_of_behind tops.registered unary suffix] at split
  obtain ⟨operand, rfl, same⟩ := split
  obtain rfl := List.mem_singleton.mp place
  obtain ⟨_, all⟩ := (ordinary.exists_takes_trim_of_chains topsToo.registered chains).mp
    ⟨others, topsToo.takes⟩
  have joined := ordinary.forall_slices_concat (Library.mem_tokenChars c token) other all
  rw [← behind, ← same] at joined
  obtain ⟨operands, takes⟩ :=
    (OperatorEntry.exists_takes_of_chains ordinary topsToo.registered chains).mpr ⟨surface, joined⟩
  exact skips operands takes

/-- No chain of numbers but a difference is below a sign, for it would have the sign in front of its
first operand. -/
theorem ne_negation (other : c ≠ '-') : outer.operator.kind ≠ .negation := by
  intro negation
  have token : c ∈ inner.operator.kind.token := chains.token ▸ List.mem_singleton_self c
  have surface := nests.mem_surfaceChars ordinary c token
  have skips := nests.skips looser
  obtain ⟨_, ⟨_, parts, tops, split, _, place⟩, others, topsToo, _⟩ := nests
  have unary : outer.operator.kind.isUnary = true := by rw [negation]; rfl
  have before : outer.operator.kind.isSuffix = false := by rw [negation]; rfl
  have sign : outer.operator.kind.token = ['-'] := by rw [negation]; rfl
  rw [ordinary.dialect, OperatorEntry.fragments?_of_before tops.registered unary before] at split
  obtain ⟨operand, rfl, same⟩ := split
  obtain rfl := List.mem_singleton.mp place
  obtain ⟨_, all⟩ := (ordinary.exists_takes_trim_of_chains topsToo.registered chains).mp
    ⟨others, topsToo.takes⟩
  have joined := ordinary.forall_slices_cons (Library.mem_tokenChars c token) other all
  rw [← sign, ← same] at joined
  obtain ⟨operands, takes⟩ :=
    (OperatorEntry.exists_takes_of_chains ordinary topsToo.registered chains).mpr ⟨surface, joined⟩
  exact skips operands takes

end Numbers

/-- A square is not below a sign, for it would be the square of the number with the sign. -/
theorem not_negation_above_square (negation : outer.operator.kind = .negation) :
    inner.operator.kind ≠ .square := by
  intro square
  have looser : inner.level < outer.level := by
    rw [OperatorEntry.level, OperatorEntry.level, negation, square]
    exact Nat.lt_succ_self 14
  have skips := nests.skips looser
  obtain ⟨trimmed, ⟨_, parts, tops, split, _, place⟩, others, topsToo, _⟩ := nests
  have unary : outer.operator.kind.isUnary = true := by rw [negation]; rfl
  have before : outer.operator.kind.isSuffix = false := by rw [negation]; rfl
  have sign : outer.operator.kind.token = ['-'] := by rw [negation]; rfl
  rw [ordinary.dialect, OperatorEntry.fragments?_of_before tops.registered unary before, sign] at split
  obtain ⟨operand, rfl, same⟩ := split
  obtain rfl := List.mem_singleton.mp place
  obtain ⟨number, ending, reads⟩ := (OperatorEntry.exists_takes_of_square ordinary topsToo.registered
    square).mp ⟨others, topsToo.takes⟩
  obtain ⟨lead, trail, whole, blank, blankToo⟩ := Text.exists_trim part
  have signed : engine.ReadsAs .double (['-'] ++ (lead ++ number)) :=
    ordinary.readsAs_double_cons ((readsAs_congr (Text.trim_append_left blank number)).mpr reads)
  obtain ⟨operands, takes⟩ := ordinary.exists_takes_trim_of_square topsToo.registered square signed
  have text_eq : text = ['-'] ++ (lead ++ number) ++ ['²'] ++ trail := by
    rw [same, whole, ending]
    simp only [List.append_assoc]
  rw [← trimmed, text_eq, Text.trim_append_right blankToo] at skips
  exact skips operands takes

/-- A product is not below a quotient, for it would have the quotient as one of its factors. -/
theorem not_division_above_multiplication {multiply : Tag}
    (division : outer.operator.kind = .division multiply) :
    inner.operator.kind ≠ .multiplication := by
  intro multiplication
  have looser : inner.level < outer.level := by
    rw [OperatorEntry.level, OperatorEntry.level, division, multiplication]
    exact Nat.lt_succ_self 12
  have skips := nests.skips looser
  have products : inner.operator.kind.Chains '*' .double :=
    multiplication ▸ OperatorKind.chains_multiplication
  have quotients : outer.operator.kind.Chains '/' .double :=
    division ▸ OperatorKind.chains_division multiply
  have surface := nests.mem_surfaceChars ordinary '*' (products.token ▸ List.mem_singleton_self _)
  obtain ⟨_, ⟨operands, parts, tops, _⟩, _, topsToo, _⟩ := nests
  obtain ⟨_, all⟩ := (OperatorEntry.exists_takes_of_chains ordinary tops.registered quotients).mp
    ⟨operands, tops.takes⟩
  have finest : ∀ slice ∈ Dialect.standard.slices (· == '/') text,
      ∀ factor ∈ Dialect.standard.slices (· == '*') slice, engine.ReadsAs .double factor :=
    fun slice present => ordinary.forall_product_slices (all slice present)
  have order : (fun d => d == '/' || d == '*') = fun d => d == '*' || d == '/' :=
    funext fun d => Bool.or_comm _ _
  rw [Dialect.forall_slices_slices (· == '/') (Library.isDelimiter_of_beq (by decide)), order,
    ← Dialect.forall_slices_slices (· == '*') (Library.isDelimiter_of_beq (by decide))] at finest
  obtain ⟨factors, takes⟩ :=
    (OperatorEntry.exists_takes_of_chains ordinary topsToo.registered products).mpr
      ⟨surface, fun slice present => ordinary.readsAs_double_of_slices tops.registered
        (by rw [division]; rfl) quotients (finest slice present)⟩
  exact skips factors takes

/-- Looser operators below an arithmetic operator or a concatenation are among the inversions. -/
theorem mem_inversions_of_number (tight : 9 ≤ outer.level) (looser : inner.level < outer.level) :
    (outer.level, inner.level) ∈ Library.inversions := by
  have innerTight : 9 ≤ inner.level := Nat.le_of_not_lt fun loose =>
    absurd (nests.lt_of_lt loose) (Nat.not_lt_of_le tight)
  obtain ⟨kinds, others, accepted, member⟩ := nests.exists_accepts
  have numeric : outer.operator.kind.isNumeric = true := by
    refine (OperatorKind.isNumeric_or_eq tight).resolve_right fun joining => ?_
    rw [joining] at accepted
    have takes := Kind.takesAll_iff.mp (Bool.and_eq_true_iff.mp accepted).2 _ member
    rw [OperatorEntry.level, OperatorEntry.level, joining, OperatorKind.eq_concatenation takes] at looser
    exact Nat.lt_irrefl _ looser
  have takes : Kind.double.takes (inner.operator.kind.resultKind others) = true :=
    Kind.takesAll_iff.mp (OperatorKind.takesAll_of_isNumeric numeric accepted) _ member
  have innerNumeric : inner.operator.kind.isNumeric = true := by
    refine (OperatorKind.isNumeric_or_eq innerTight).resolve_right fun joining => ?_
    rw [joining] at takes
    exact absurd takes Bool.false_ne_true
  rcases OperatorKind.mem_inversions_or_eq innerNumeric numeric looser with
    listed | square | negation | ⟨multiplication, multiply, division⟩
  · exact listed
  · have between : inner.operator.kind.isUnary = false := by
      refine Bool.eq_false_iff.mpr fun unary => ?_
      rw [OperatorEntry.level, OperatorEntry.level, square] at looser
      rcases OperatorKind.eq_square_or_negation innerNumeric unary with same | same
      · exact absurd looser (by rw [same]; exact Nat.lt_irrefl _)
      · exact absurd looser (by rw [same]; exact Nat.not_lt_of_le (Nat.le_succ 14))
    obtain ⟨c, chains, other, _⟩ := OperatorKind.exists_chains innerNumeric between
    exact absurd square (nests.ne_square ordinary looser chains other)
  · have between : inner.operator.kind.isUnary = false := by
      refine Bool.eq_false_iff.mpr fun unary => ?_
      rcases OperatorKind.eq_square_or_negation innerNumeric unary with same | same
      · exact nests.not_negation_above_square ordinary negation same
      · rw [OperatorEntry.level, OperatorEntry.level, negation, same] at looser
        exact Nat.lt_irrefl _ looser
    obtain ⟨c, chains, _, difference⟩ := OperatorKind.exists_chains innerNumeric between
    by_cases sign : c = '-'
    · rw [OperatorEntry.level, OperatorEntry.level, negation, difference sign]
      decide
    · exact absurd negation (nests.ne_negation ordinary looser chains sign)
  · exact absurd multiplication (nests.not_division_above_multiplication ordinary division)

/-- Of two nested operators the inner one is registered no earlier, but for the inversions. -/
theorem level_le_or_mem :
    outer.level ≤ inner.level ∨ (outer.level, inner.level) ∈ Library.inversions := by
  rcases Nat.lt_or_ge inner.level outer.level with looser | above
  · rcases Nat.lt_or_ge outer.level 9 with loose | tight
    · exact .inr (nests.mem_inversions_of_truth ordinary loose looser)
    · exact .inr (nests.mem_inversions_of_number ordinary tight looser)
  · exact .inl above

end Nests

/-- Whatever stands within an expression that is read has been read from a text of its own. -/
theorem exists_parse_of_within {tree part : Tree} (within : Tree.Within part tree) {text : List Char}
    (read : engine.parse text = .ok tree) : (∃ own, engine.parse own = .ok part) := by
  induction within generalizing text with
  | self => exact ⟨text, read⟩
  | @child whole inner member within ih =>
    cases makes_of_parse read with
    | block enclosed readInside => exact ih (List.mem_singleton.mp member ▸ readInside)
    | name named =>
      rcases Option.or_eq_some_iff.mp named with constant | ⟨_, input⟩
      · obtain ⟨_, _, rfl⟩ := Option.map_eq_some_iff.mp constant
        exact absurd member List.not_mem_nil
      · obtain ⟨_, _, rfl⟩ := Option.map_eq_some_iff.mp input
        exact absurd member List.not_mem_nil
    | operation _ _ takes =>
      obtain ⟨⟨parts, _, readParts⟩, _⟩ := takes
      obtain ⟨fragment, _, success⟩ := exists_part_of_readsAll readParts member
      exact ih success
    | call _ readParts =>
      obtain ⟨fragment, _, success⟩ := exists_part_of_readsAll readParts member
      exact ih success
    | literal => exact absurd member List.not_mem_nil

/-- Of an operator and an operator that is its operand in an expression that is read, the inner one is
registered no earlier than the outer one, or the two are among the listed inversions. -/
theorem positions_of_parse {now : DateTime} {items : List (String × Variable)}
    (identifiers : ∀ entry ∈ items, isIdentifier entry.1 = true) {text : List Char} {tree : Tree}
    (read : (withVariables base now items).parse text = .ok tree) {outer inner : Operator}
    {operands others : List Tree} (within : Tree.Within (.operation outer operands) tree)
    (member : .operation inner others ∈ operands) :
    ∃ above below, (withVariables base now items).positionOf? outer = some above ∧
      (withVariables base now items).positionOf? inner = some below ∧
      (above ≤ below ∨ (above, below) ∈ Library.inversions) := by
  have ordinary : (withVariables base now items).Ordinary base := ordinary_withVariables identifiers
  obtain ⟨own, readOwn⟩ := exists_parse_of_within within read
  obtain ⟨entry, tops, rfl⟩ := ordinary.tops_of_parse readOwn
  obtain ⟨⟨parts, split, readParts⟩, _⟩ := tops.takes
  obtain ⟨part, place, readPart⟩ := exists_part_of_readsAll readParts member
  obtain ⟨entryToo, topsToo, rfl⟩ := ordinary.tops_of_parse readPart
  have nests : (withVariables base now items).Nests base entry entryToo (Text.trim own) part :=
    ⟨Text.trim_trim own, ⟨operands, parts, tops, split, readParts, place⟩, others, topsToo, readPart⟩
  exact ⟨entry.level, entryToo.level, ordinary.positionOf?_eq tops.registered,
    ordinary.positionOf?_eq topsToo.registered, nests.level_le_or_mem ordinary⟩

/-- The places of the operator on top of an expression and of each operator directly below it. -/
def nestings (engine : Engine) : Tree → List (Option Nat × Option Nat)
  | .operation outer operands => operands.filterMap fun
    | .operation inner _ => some (engine.positionOf? outer, engine.positionOf? inner)
    | _ => none
  | _ => []

/-- Nestings are the positions of an operation and of one directly below it. -/
theorem mem_nestings {above below : Option Nat} {tree : Tree}
    (member : (above, below) ∈ engine.nestings tree) :
    ∃ outer inner operands others, tree = .operation outer operands ∧
      .operation inner others ∈ operands ∧ engine.positionOf? outer = above ∧
      engine.positionOf? inner = below := by
  cases tree with
  | operation outer operands =>
    obtain ⟨operand, present, same⟩ := List.mem_filterMap.mp member
    cases operand with
    | operation inner others =>
      obtain ⟨rfl, rfl⟩ := Prod.mk.inj (Option.some.inj same)
      exact ⟨outer, inner, operands, others, rfl, present, rfl, rfl⟩
    | _ => cases same
  | _ => exact absurd member List.not_mem_nil

/-- In a sum with a product the product is the inner operation and registered behind the sum. -/
theorem positions_of_sum :
    ∃ tree outer inner operands others,
      (withVariables 0 ⟨Date.epoch, Time.midnight⟩ [("x", ⟨0, "/x", .long⟩)]).parse
          "x + 2 * 3".toList = .ok tree ∧
        Tree.Within (.operation outer operands) tree ∧ .operation inner others ∈ operands ∧
        ∃ above below,
          (withVariables 0 ⟨Date.epoch, Time.midnight⟩ [("x", ⟨0, "/x", .long⟩)]).positionOf?
            outer = some above ∧
          (withVariables 0 ⟨Date.epoch, Time.midnight⟩ [("x", ⟨0, "/x", .long⟩)]).positionOf?
            inner = some below ∧
          (above ≤ below ∨ (above, below) ∈ Library.inversions) := by
  have reads : ((withVariables 0 ⟨Date.epoch, Time.midnight⟩ [("x", ⟨0, "/x", .long⟩)]).parse
      "x + 2 * 3".toList).toOption.map
        (withVariables 0 ⟨Date.epoch, Time.midnight⟩ [("x", ⟨0, "/x", .long⟩)]).nestings =
      some [(some 9, some 12)] := by decide +kernel
  obtain ⟨tree, success, nested⟩ := Option.map_eq_some_iff.mp reads
  have read := Except.toOption_eq_some_iff.mp success
  obtain ⟨outer, inner, operands, others, rfl, member, _⟩ :=
    mem_nestings (nested ▸ List.mem_singleton_self _)
  exact ⟨_, outer, inner, operands, others, read, .self, member,
    positions_of_parse (by decide) read .self member⟩

/-- In a difference behind a sign the looser operator is the inner one: the text before the first token
of the difference is empty, so only the sign takes the text. -/
theorem exists_looser_operand :
    ∃ outer inner operands others,
      (standard 0 ⟨Date.epoch, Time.midnight⟩).parse "-1 - 2".toList =
          .ok (.operation outer operands) ∧
        .operation inner others ∈ operands ∧
        (standard 0 ⟨Date.epoch, Time.midnight⟩).positionOf? outer = some 15 ∧
        (standard 0 ⟨Date.epoch, Time.midnight⟩).positionOf? inner = some 11 := by
  have reads : ((standard 0 ⟨Date.epoch, Time.midnight⟩).parse "-1 - 2".toList).toOption.map
      (standard 0 ⟨Date.epoch, Time.midnight⟩).nestings = some [(some 15, some 11)] := by
    decide +kernel
  obtain ⟨tree, success, nested⟩ := Option.map_eq_some_iff.mp reads
  obtain ⟨outer, inner, operands, others, rfl, member, above, below⟩ :=
    mem_nestings (nested ▸ List.mem_singleton_self _)
  exact ⟨outer, inner, operands, others, Except.toOption_eq_some_iff.mp success, member, above, below⟩

/-- Every one of the inversions occurs. -/
theorem exists_parse_of_mem_inversions : ∀ pair ∈ Library.inversions,
    ∃ text outer inner operands others,
      (standard 0 ⟨Date.epoch, Time.midnight⟩).parse text = .ok (.operation outer operands) ∧
        .operation inner others ∈ operands ∧
        (standard 0 ⟨Date.epoch, Time.midnight⟩).positionOf? outer = some pair.1 ∧
        (standard 0 ⟨Date.epoch, Time.midnight⟩).positionOf? inner = some pair.2 := by
  have occurs (pair : Nat × Nat) (text : String)
      (nested : (match (standard 0 ⟨Date.epoch, Time.midnight⟩).parse text.toList with
        | .ok tree => ((standard 0 ⟨Date.epoch, Time.midnight⟩).nestings tree).contains
            (some pair.1, some pair.2)
        | .error _ => false) = true) :
      ∃ text outer inner operands others,
        (standard 0 ⟨Date.epoch, Time.midnight⟩).parse text = .ok (.operation outer operands) ∧
          .operation inner others ∈ operands ∧
          (standard 0 ⟨Date.epoch, Time.midnight⟩).positionOf? outer = some pair.1 ∧
          (standard 0 ⟨Date.epoch, Time.midnight⟩).positionOf? inner = some pair.2 := by
    split at nested
    · next tree read =>
      obtain ⟨outer, inner, operands, others, rfl, present⟩ :=
        mem_nestings (List.contains_iff_mem.mp nested)
      exact ⟨text.toList, outer, inner, operands, others, read, present⟩
    · exact absurd nested Bool.false_ne_true
  simp only [Library.inversions, List.forall_mem_cons]
  exact ⟨occurs (3, 2) "true != !true" (by decide +kernel),
    occurs (4, 2) "true <= !true" (by decide +kernel),
    occurs (5, 2) "true >= !true" (by decide +kernel),
    occurs (6, 2) "true = !true" (by decide +kernel),
    occurs (7, 2) "true < !true" (by decide +kernel),
    occurs (8, 2) "true > !true" (by decide +kernel),
    occurs (4, 3) "null <= -1 != 1" (by decide +kernel),
    occurs (5, 3) "null >= -1 != 1" (by decide +kernel),
    occurs (7, 3) "null < -1 != 1" (by decide +kernel),
    occurs (8, 3) "null > -1 != 1" (by decide +kernel),
    occurs (5, 4) "true >= -1 <= -1" (by decide +kernel),
    occurs (8, 4) "true > 1 <= 1" (by decide +kernel),
    occurs (7, 5) "null < +5 >= +5" (by decide +kernel),
    occurs (7, 6) "null < +5 = +5" (by decide +kernel),
    occurs (8, 6) "null > 1 = -1" (by decide +kernel),
    occurs (8, 7) "true > -1 < 1" (by decide +kernel),
    occurs (11, 9) "1 + 1 - +5" (by decide +kernel),
    occurs (12, 9) "+5 * 1 + 1" (by decide +kernel),
    occurs (13, 9) "-+5 / 1 + 1" (by decide +kernel),
    occurs (12, 11) "-1 * 1 - 1" (by decide +kernel),
    occurs (13, 11) "-1 / 1 - 1" (by decide +kernel),
    occurs (15, 11) "-1 - 1" (by decide +kernel),
    List.forall_mem_nil _⟩

end Engine

end Reckoner
