import Reckoner.Proofs.Alike
import Reckoner.Proofs.Grammar.Form
import Reckoner.Proofs.Source.Join
import Reckoner.Proofs.Writing.Literal
import Reckoner.Proofs.Writing.Name
import Reckoner.Source.Format

/-! # Texts of expressions

What is written for an expression is balanced and keeps the operators apart: no token of an operator
that binds looser is found in it, unless it is one in front of or behind the text as a whole. These facts
are what the reader needs in order to pass over all looser operators.
-/

namespace Reckoner

namespace Engine

variable {engine : Engine} {base : Tag}

/-- The operator is registered at `place` and accepts the operands, which no earlier operator with its
token does; operators directly below it are registered later and under another token. -/
structure Ranks (engine : Engine) (operator : Operator) (operands : List Tree) (place : Nat) :
    Prop where
  registered : engine.positionOf? operator = some place
  accepted : operator.accepts operands = true
  first : ∀ entry ∈ engine.operators.take place, engine.tokenOf? operator = some entry.token →
    entry.operator.accepts operands = false
  below : ∀ inner others, .operation inner others ∈ operands → ∃ later,
    engine.positionOf? inner = some later ∧ place < later ∧
      engine.tokenOf? inner ≠ engine.tokenOf? operator

/-- The expression can be written, as far as it can be told without looking into its operands:
literals are plain, everything else is registered, and operators respect their order. -/
def Orderly (engine : Engine) : Tree → Prop
  | .literal kind value => kind = value.kind ∧ value.isPlain = true
  | .constant item => (engine.constants.nameOf? item).isSome = true
  | .input item => (engine.inputs.nameOf? item).isSome = true
  | .operation operator operands => ∃ place, engine.Ranks operator operands place
  | .call function operands =>
    (engine.functions.nameOf? function).isSome = true ∧ function.accepts operands = true
  | .block _ => True

end Engine

/-- The place of the operator on top of an expression, behind all operators if there is none. The sign
of a year looks like a sum or a difference. -/
def Tree.level : Tree → Nat
  | .operation operator _ => operator.kind.level
  | .literal _ value => if value.hasSignedYear then 9 else 16
  | _ => 16

/-- An expression of the level of negations is one. -/
theorem Tree.exists_operation_of_level {tree : Tree} (two : tree.level = 2) :
    ∃ operator operands, tree = .operation operator operands ∧ operator.kind = .not := by
  cases tree with
  | operation operator operands =>
    refine ⟨operator, operands, rfl, ?_⟩
    change operator.kind.level = 2 at two
    cases sort : operator.kind with
    | not => rfl
    | comparison relation => rw [sort] at two; cases relation <;> exact absurd two (by decide)
    | _ => rw [sort] at two; exact absurd two (Nat.ne_of_beq_eq_false rfl)
  | literal kind value =>
    rw [level] at two
    split at two <;> exact absurd two (by decide)
  | _ => exact absurd (show 16 = 2 from two) (by decide)

theorem Tree.level_literal {kind : Kind} {value : Value} (unsigned : value.hasSignedYear = false) :
    (Tree.literal kind value).level = 16 := by rw [level, if_neg (Bool.eq_false_iff.mp unsigned)]

namespace Engine

variable {engine : Engine} {base : Tag}

/-- The entry's operator accepts the operands, which no addition does if it is a concatenation.
Operators directly below it bind tighter, or no looser if it has a single operand, or they are negations
in a row of operands, which stand in blocks. -/
structure Binds (base : Tag) (entry : OperatorEntry) (operands : List Tree) : Prop where
  accepted : entry.operator.accepts operands = true
  unadded : entry.level = 10 → ∀ other ∈ Library.operators base, other.level = 9 →
    other.operator.accepts operands = false
  deeper : ∀ operand ∈ operands, entry.level < operand.level ∨
    entry.operator.kind.isUnary = true ∧ entry.level = operand.level ∨
      entry.operator.kind.isUnary = false ∧ operand.level = 2
  apart : ∀ operand ∈ operands, entry.level = 9 → operand.level ≠ 10

/-- The text is a whole that reads as the expression, blocks aside. -/
structure Spells (engine : Engine) (tree : Tree) (text : List Char) : Prop where
  reads : ∃ back, engine.parse text = .ok back ∧ back.bare = tree.bare
  balanced : Dialect.standard.Balanced text
  tight : Text.Tight text
  undivided : Dialect.standard.cut? [','] text = none

theorem Spells.whole {tree : Tree} {text : List Char} (spells : engine.Spells tree text) :
    Text.Whole text :=
  ⟨spells.balanced, spells.tight.trim_eq.trans_ne spells.tight.ne_nil, spells.undivided⟩

/-- Texts that differ in blanks at their ends read as the same expressions. -/
theorem readsAll_of_trim {parts texts : List (List Char)} {trees : List Tree}
    (same : List.Forall₂ (fun part text => Text.trim part = Text.trim text) parts texts)
    (read : engine.ReadsAll texts trees) : engine.ReadsAll parts trees := by
  induction same generalizing trees with
  | nil => exact read
  | cons here _ ih =>
    cases read with
    | cons head tail => exact .cons ((parse_congr here).trans head) (ih tail)

/-- Texts that spell operands read as expressions that are the same without blocks. -/
theorem exists_readsAll_of_spells {texts : List (List Char)} {operands : List Tree}
    (spell : List.Forall₂ (fun text operand => engine.Spells operand text) texts operands) :
    ∃ backs, engine.ReadsAll texts backs ∧ Tree.bareAll backs = Tree.bareAll operands ∧
      List.Forall₂ Tree.Alike backs operands := by
  induction spell with
  | nil => exact ⟨[], .nil, rfl, .nil⟩
  | cons here _ ih =>
    obtain ⟨back, read, same⟩ := here.reads
    obtain ⟨backs, readAll, sameAll, alike⟩ := ih
    exact ⟨back :: backs, .cons read readAll, by rw [Tree.bareAll, Tree.bareAll, same, sameAll],
      .cons (Tree.alike_of_bare same) alike⟩

/-- No token of an operator between operands is found in the text that binds looser than `level`,
but for that of an addition in a concatenation and for a sign in front of the text. -/
def Uncut (level : Nat) (text : List Char) : Prop :=
  ∀ operator : OperatorKind, operator.isUnary = false → operator.level < level →
    (operator.level = 9 → level ≠ 10) → (operator.level = 11 → text.head? ≠ some '-') →
    Dialect.standard.cut? operator.token text = none

/-- The text spells the expression and shows no looser operators than the one on top. -/
structure Writes (engine : Engine) (tree : Tree) (text : List Char) : Prop
    extends engine.Spells tree text where
  uncut : Uncut tree.level text
  unnegated : 2 < tree.level → text.head? ≠ some '!'
  unsquared : 14 < tree.level → text.getLast? ≠ some '²'
  solid : tree.level = 16 → Text.Solid text

/-- The text spells an operand among several: it shows no operators of its level or looser ones, and
none in front of it. -/
structure Joins (engine : Engine) (level : Nat) (operand : Tree) (text : List Char) : Prop
    extends engine.Spells operand text where
  uncut : ∀ operator : OperatorKind, operator.isUnary = false → operator.level ≤ level →
    Dialect.standard.cut? operator.token text = none
  unnegated : text.head? ≠ some '!'
  unsigned : text.head? ≠ some '-'

/-- The expression can be written and read back, as far as it can be told without looking into its
operands. -/
def Regular (engine : Engine) (base : Tag) : Tree → Prop
  | .literal kind value => ∃ text, engine.format (.literal kind value) = .ok text ∧
    engine.Writes (.literal kind value) text
  | .constant item => (engine.constants.nameOf? item).isSome = true
  | .input item => (engine.inputs.nameOf? item).isSome = true
  | .operation operator operands => ∃ entry ∈ Library.operators base,
    entry.operator = operator ∧ Binds base entry operands
  | .call function operands =>
    (engine.functions.nameOf? function).isSome = true ∧ function.accepts operands = true
  | .block _ => True

section Solid

variable {tree : Tree} {text : List Char} (solid : Text.Solid text)
  (reads : ∃ back, engine.parse text = .ok back ∧ back.bare = tree.bare)

include solid reads

/-- A solid text that reads as an expression spells it. -/
theorem spells_of_solid : engine.Spells tree text :=
  ⟨reads, solid.balanced, solid.tight, solid.cut?_eq_none Dialect.isToken_separator (by decide)⟩

/-- A solid text shows no operators, so it writes its expression. -/
theorem writes_of_solid : engine.Writes tree text where
  toSpells := spells_of_solid solid reads
  uncut := fun operator _ _ _ _ =>
    solid.cut?_eq_none operator.isToken fun _ => Library.mem_cutters _
  unnegated := fun _ => solid.head?_ne (by decide)
  unsquared := fun _ => solid.getLast?_ne (by decide)
  solid := fun _ => solid

theorem joins_of_solid (level : Nat) : engine.Joins level tree text where
  toSpells := spells_of_solid solid reads
  uncut := fun operator _ _ => solid.cut?_eq_none operator.isToken fun _ => Library.mem_cutters _
  unnegated := solid.head?_ne (by decide)
  unsigned := solid.head?_ne (by decide)

end Solid

namespace Ordinary

variable (ordinary : engine.Ordinary base)

include ordinary

/-- The tokens that stand in front of operands are those of negations and signs. -/
theorem beginsWithToken_iff {text : List Char} :
    engine.beginsWithToken text = true ↔ text.head? = some '!' ∨ text.head? = some '-' := by
  have spelled : Text.asciiLower "!".toList = ['!'] ∧ Text.asciiLower "-".toList = ['-'] ∧
      "!".isEmpty = false ∧ "-".isEmpty = false := by decide
  have found (c : Char) (noLetter : c.isAlpha = false) :
      (Text.afterSpelling? [c] text).isSome = true ↔ text.head? = some c := by
    rw [Option.isSome_iff_exists]
    simp only [Text.afterSpelling?_eq_some_iff (List.forall_mem_singleton.mpr noLetter)]
    exact List.head?_eq_some_iff.symm
  rw [beginsWithToken, ordinary.operators]
  simp only [Library.operators, List.any_cons, List.any_nil, OperatorKind.isUnary,
    OperatorKind.isSuffix, Bool.false_and, Bool.false_or, Bool.true_and, Bool.not_true, Bool.not_false,
    Bool.or_false, spelled, Bool.or_eq_true, found _ (show '!'.isAlpha = false from rfl),
    found _ (show '-'.isAlpha = false from rfl)]

/-- A balanced text between the delimiters of a block reads as the block. -/
theorem parse_blockText {text : List Char} {back : Tree} (balanced : Dialect.standard.Balanced text)
    (read : engine.parse text = .ok back) :
    engine.parse (engine.blockText text) = .ok (.block back) := by
  have solid := Text.solid_of_balanced (List.forall_mem_nil _) balanced
  have whole : engine.blockText text = '(' :: text ++ [')'] := by
    rw [blockText, ordinary.dialect]
    rfl
  have enclosed : engine.dialect.enclosed? engine.dialect.blockOpen engine.dialect.blockClose
      (Text.trim ('(' :: text ++ [')'])) = some text := by
    rw [ordinary.dialect, (show Text.trim ('(' :: text ++ [')']) = _ from solid.tight.trim_eq)]
    exact balanced.enclosed? Text.opens_block Text.closes_block
  rw [whole, parse_block enclosed, read]
  rfl

/-- A block is solid and reads as what stands in it. -/
theorem solid_blockText {tree : Tree} {text : List Char} (spells : engine.Spells tree text) :
    Text.Solid (engine.blockText text) ∧
      ∃ back, engine.parse (engine.blockText text) = .ok back ∧ back.bare = tree.bare := by
  obtain ⟨back, read, same⟩ := spells.reads
  refine ⟨?_, .block back, ordinary.parse_blockText spells.balanced read, same⟩
  rw [blockText, ordinary.dialect]
  exact Text.solid_of_balanced (List.forall_mem_nil _) spells.balanced

/-- Among several operands stands a text that shows no operator of its level or a looser one. -/
theorem joins_operandText {tree : Tree} {text : List Char} {level : Nat}
    (writes : engine.Writes tree text) (deeper : level < tree.level)
    (apart : level = 9 → tree.level ≠ 10) :
    engine.Joins level tree (engine.operandText true tree text) := by
  obtain ⟨solid, reads⟩ := ordinary.solid_blockText writes.toSpells
  rw [operandText]
  split
  · exact joins_of_solid solid reads level
  · next bare =>
    by_cases leaf : tree.level = 16
    · exact joins_of_solid (writes.solid leaf) writes.reads level
    · have operation : needsBlock true tree = true := by
        cases tree with
        | operation | literal => rfl
        | _ => exact absurd rfl leaf
      rw [operation, Bool.true_and, ordinary.beginsWithToken_iff, not_or] at bare
      obtain ⟨unnegated, unsigned⟩ := bare
      refine ⟨writes.toSpells, fun operator between loose => ?_, unnegated, unsigned⟩
      refine writes.uncut operator between (Nat.lt_of_le_of_lt loose deeper) (fun nine ten => ?_)
        fun _ => unsigned
      exact apart (by omega) ten

/-- In front of or behind a single operand stands its text or, of a literal, perhaps a block. -/
theorem writes_operandText {tree : Tree} {text : List Char} (writes : engine.Writes tree text) :
    engine.Writes tree (engine.operandText false tree text) := by
  obtain ⟨solid, reads⟩ := ordinary.solid_blockText writes.toSpells
  rw [operandText]
  split
  · exact writes_of_solid solid reads
  · exact writes

end Ordinary

end Engine

end Reckoner
