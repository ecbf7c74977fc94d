import Reckoner.Proofs.Folding.FormedReduction
import Reckoner.Proofs.Writing.Canonical

/-! # Reduced expressions stay registered

Whatever the dialect, and whatever the variables are called, the rules put operators of the library into
reduced expressions and nothing that operators or functions refuse. So whoever read an expression can
write it reduced, but for the values of literals.

A dialect has a pattern for dates, one for times and one for moments, so what is tried as a literal of one
of these kinds is read as a value of that kind or not at all. Readers that answer a date where a moment is
tried are not among the dialects.
-/

namespace Reckoner

namespace Library

variable {base : Tag} {engine : Engine}

/-- The operators of the library are found under their tokens. -/
theorem isSome_tokenOf? (operators : engine.operators = Library.operators base) {operator : Operator}
    (registered : ∃ entry ∈ Library.operators base, entry.operator = operator) :
    (engine.tokenOf? operator).isSome = true := by
  obtain ⟨entry, member, rfl⟩ := registered
  rw [Engine.tokenOf?, operators, Option.isSome_map, List.find?_isSome]
  exact ⟨entry, member, beq_self_eq_true _⟩

/-- Additions and concatenations leave the same fragments in every dialect. -/
theorem fragments?_of_sum {dialect : Dialect} {sum join : OperatorEntry}
    (member : sum ∈ operators base) (memberToo : join ∈ operators base)
    (adds : sum.operator.kind = .addition) (joins : join.operator.kind = .concatenation)
    (text : List Char) : sum.fragments? dialect text = join.fragments? dialect text := by
  rw [OperatorEntry.fragments?, OperatorEntry.fragments?, spelling_of_mem member,
    spelling_of_mem memberToo, adds, joins]
  rfl

end Library

namespace Dialect

end Dialect

namespace Engine

variable {engine : Engine} {base : Tag}

/-- The part is registered, and its operator or function accepts its operands. -/
def Valid (engine : Engine) : Tree → Prop
  | .literal _ _ | .block _ => True
  | .constant item => (engine.constants.nameOf? item).isSome = true
  | .input item => (engine.inputs.nameOf? item).isSome = true
  | .operation operator operands =>
    (engine.tokenOf? operator).isSome = true ∧ operator.accepts operands = true
  | .call function operands =>
    (engine.functions.nameOf? function).isSome = true ∧ function.accepts operands = true

section Operators

variable (operators : engine.operators = Library.operators base)

include operators

/-- An operation that is read is one of the library, and one that joins texts has an operand that is
declared a text, because an addition takes all others. -/
theorem registered_of_parse {text : List Char} {operator : Operator} {operands : List Tree}
    (read : engine.parse text = .ok (.operation operator operands)) :
    (∃ entry ∈ Library.operators base, entry.operator = operator) ∧
      (operator.kind = .concatenation → Kind.string ∈ Tree.kinds operands) := by
  cases makes_of_parse read with
  | name named =>
    rcases Option.or_eq_some_iff.mp named with constant | ⟨_, input⟩
    · obtain ⟨_, _, same⟩ := Option.map_eq_some_iff.mp constant
      cases same
    · obtain ⟨_, _, same⟩ := Option.map_eq_some_iff.mp input
      cases same
  | @operation before after entry operands entries skipped takes =>
    rw [operators] at entries
    have registered : entry ∈ Library.operators base := by
      rw [entries]
      exact List.mem_append_right _ (List.mem_cons_self ..)
    refine ⟨⟨entry, registered, rfl⟩, fun joins => ?_⟩
    obtain ⟨⟨parts, split, readParts⟩, accepted⟩ := takes
    rw [Operator.accepts, joins, OperatorKind.accepts, Bool.and_eq_true, decide_eq_true_eq] at accepted
    by_contra texts
    have earlier := (Library.mem_before_iff entries).mpr
      ⟨Library.mem_addition base, by rw [OperatorEntry.level, OperatorEntry.level, joins]; exact Nat.lt_succ_self 9⟩
    refine skipped _ earlier operands ⟨⟨parts, ?_, readParts⟩,
      (Operator.accepts_arithmetic_iff rfl).mpr ⟨?_, fun operand member => ?_⟩⟩
    · rw [Library.fragments?_of_sum (Library.mem_addition base) registered rfl joins, split]
    · rw [← List.length_map Tree.kind, ← Tree.kinds_eq_map]
      exact accepted.1
    · have inside : operand.kind ∈ Tree.kinds operands := mem_kinds.mpr ⟨operand, member, rfl⟩
      have text := Kind.takesAll_iff.mp accepted.2 _ inside
      have other : operand.kind ≠ .string := fun same => texts (same ▸ inside)
      revert text other
      cases operand.kind <;> decide

/-- All parts of an expression that is read are registered. -/
theorem found_of_parse {text : List Char} {tree : Tree} (read : engine.parse text = .ok tree) :
    Tree.All (engine.Found base False) tree := by
  intro part within
  obtain ⟨own, success⟩ := exists_parse_of_within within read
  have named := named_of_parse success
  cases part with
  | literal => exact False.elim
  | constant => exact ⟨named, False.elim⟩
  | input => exact named
  | operation => exact registered_of_parse operators success
  | call => exact ⟨named.1, False.elim⟩
  | block => exact trivial

/-- A formed part is registered, and its operator or function accepts its operands. -/
theorem Formed.valid {lossless : Prop} {tree : Tree} (formed : engine.Formed base lossless tree) :
    engine.Valid tree := by
  obtain ⟨found, accepted⟩ := formed
  cases tree with
  | literal | block => exact trivial
  | constant => exact found.1
  | input => exact found
  | operation => exact ⟨Library.isSome_tokenOf? operators found.1, accepted⟩
  | call => exact ⟨found.1, accepted.1⟩

end Operators

theorem constantsFit_withVariables (base : Tag) (now : DateTime) (items : List (String × Variable)) :
    (withVariables base now items).ConstantsFit := by
  rw [withVariables_eq]
  exact constantsFit_standard base now

end Engine

end Reckoner
