import Reckoner.Proofs.Grammar.Form
import Reckoner.Proofs.Typing.Value

/-! # Truth values and connectives

The operators of the first nine levels make truth values, and no operator of another level takes any.
So a text with the character of one of their tokens at its surface reads as a truth value or not at all,
and the connectives, which are the loosest of them, come out on top wherever they stand: a text that
reads as a truth value falls apart at its connectives into texts that do.
-/

namespace Reckoner

namespace Library

/-- The characters of the tokens whose operators make truth values. -/
def truthChars : List Char := ['|', '&', '!', '=', '<', '>']

theorem mem_tokenChars_of_mem_truthChars {c : Char} (truth : c ∈ truthChars) : c ∈ tokenChars :=
  List.mem_append_left ['+', '-', '*', '/', '²'] truth

end Library

namespace OperatorKind

variable {operator : OperatorKind} {kinds : List Kind}

/-- Operators below level nine make truth values. -/
theorem resultKind_of_level_lt (loose : operator.level < 9) : operator.resultKind kinds = .boolean := by
  cases operator with
  | or | and | not | comparison => rfl
  | _ => exact absurd loose (Nat.not_lt_of_le (Nat.le_of_ble_eq_true rfl))

/-- The tokens below level nine consist of the listed characters. -/
theorem mem_truthChars (loose : operator.level < 9) : ∀ c ∈ operator.token, c ∈ Library.truthChars := by
  cases operator with
  | or | and | not => decide
  | comparison relation => cases relation <;> decide
  | _ => exact absurd loose (Nat.not_lt_of_le (Nat.le_of_ble_eq_true rfl))

/-- From level nine on tokens have none of the characters of those that make truth values. -/
theorem not_mem_truthChars (tight : 9 ≤ operator.level) :
    ∀ c ∈ operator.token, c ∉ Library.truthChars := by
  cases operator with
  | or | and | not => exact absurd tight (by decide)
  | comparison relation => cases relation <;> exact absurd tight (by decide)
  | _ => dsimp only [token]; decide

/-- An operator of a tighter level makes a number or a text. -/
theorem resultKind_of_le_level (tight : 9 ≤ operator.level) :
    operator.resultKind kinds ∈ [Kind.long, .double, .string] := by
  have promoted : Kind.promoted kinds ∈ [Kind.long, .double, .string] := by
    rcases Kind.promoted_eq kinds with same | same
    · rw [same]; decide
    · rw [same]; decide
  cases operator with
  | or | and | not => exact absurd tight (by decide)
  | comparison relation => cases relation <;> exact absurd tight (by decide)
  | addition | subtraction | multiplication | negation => exact promoted
  | concatenation | division | square => exact List.elem_iff.mp rfl

/-- An operator of a tighter level takes numbers or texts. -/
theorem mem_of_accepts (tight : 9 ≤ operator.level) (accepted : operator.accepts kinds = true) :
    ∀ kind ∈ kinds, kind ∈ [Kind.long, .double, .string, .null] := by
  have within {upper : Kind} (all : ∀ kind : Kind, upper.takes kind = true →
      kind ∈ [Kind.long, .double, .string, .null]) (takes : upper.takesAll kinds = true) :
      ∀ kind ∈ kinds, kind ∈ [Kind.long, .double, .string, .null] := fun kind member =>
    all kind (Kind.takesAll_iff.mp takes kind member)
  have numbers : ∀ kind : Kind, Kind.takes .double kind = true →
      kind ∈ [Kind.long, .double, .string, .null] := by intro kind; cases kind <;> decide
  have texts : ∀ kind : Kind, Kind.takes .string kind = true →
      kind ∈ [Kind.long, .double, .string, .null] := by intro kind; cases kind <;> decide
  cases operator with
  | or | and | not => exact absurd tight (by decide)
  | comparison relation => cases relation <;> exact absurd tight (by decide)
  | concatenation => exact within texts (Bool.and_eq_true_iff.mp accepted).2
  | _ => exact within numbers (Bool.and_eq_true_iff.mp accepted).2

/-- An operator of a tighter level takes no truth values. -/
theorem ne_boolean_of_accepts (tight : 9 ≤ operator.level) (accepted : operator.accepts kinds = true) :
    ∀ kind ∈ kinds, kind ≠ .boolean := by
  rintro kind member rfl
  exact absurd (mem_of_accepts tight accepted _ member) (by decide)

end OperatorKind

namespace Engine.Ordinary

variable {engine : Engine} {base : Tag} (ordinary : engine.Ordinary base)

include ordinary

/-- A truth character at the surface makes whatever is read a truth value. -/
theorem kind_of_truthChar {text : List Char} {tree : Tree} (read : engine.parse text = .ok tree)
    {c : Char} (truth : c ∈ Library.truthChars) (member : c ∈ Dialect.standard.surfaceChars text) :
    tree.kind = .boolean := by
  revert member
  refine parse_induction
    (motive := fun text tree => c ∈ Dialect.standard.surfaceChars text → tree.kind = .boolean) ?_ text tree read
  intro text tree whole shorter member
  have token := Library.mem_tokenChars_of_mem_truthChars truth
  rcases ordinary.tops_of_surface whole token member with
    ⟨entry, operands, tops, rfl⟩ | ⟨_, _, sign, _⟩
  · rcases Nat.lt_or_ge entry.level 9 with loose | tight
    · exact OperatorKind.resultKind_of_level_lt loose
    · obtain ⟨⟨parts, split, readParts⟩, accepted⟩ := tops.takes
      have inside := (Dialect.mem_surfaceChars_trim (fun c => Dialect.isDelimiter_of_isBlank)
        (Library.isBlank_of_mem (Library.mem_marks token))).mpr member
      rcases (OperatorEntry.mem_surfaceChars_iff ordinary tops.registered split readParts).mp inside
        with between | ⟨part, place, further⟩
      · exact absurd truth (OperatorKind.not_mem_truthChars tight c between)
      · obtain ⟨operand, present, success⟩ := exists_operand_of_readsAll readParts place
        have lengths := OperatorEntry.length_of_mem_fragments? split place
        have trimmed := Text.length_trim_le text
        have truthValue := shorter part operand (by omega) success further
        rw [Operator.accepts, Tree.kinds_eq_map] at accepted
        exact absurd truthValue
          (OperatorKind.ne_boolean_of_accepts tight accepted _ (List.mem_map_of_mem present))
  · have signless : ∀ c ∈ Library.truthChars, ¬ Text.isSign c = true := by decide
    exact absurd sign (signless c truth)

end Engine.Ordinary

end Reckoner
