import Reckoner.Proofs.Grammar.Truth

/-! # Numbers stay numbers

A text that an arithmetic operator takes reads as a number, whichever operator comes out on top. So a sign
in front of a number or a square behind it makes a number, and so do numbers between arithmetic tokens;
conversely a number falls apart into numbers wherever a product could be cut.
-/

namespace Reckoner

namespace OperatorKind

variable {operator : OperatorKind} {kinds : List Kind}

/-- The operators that make numbers of numbers. -/
def isNumeric : OperatorKind → Bool
  | addition | subtraction _ _ | multiplication | division _ | square | negation => true
  | _ => false

/-- The operators on numbers bind more tightly than comparisons and connectives. -/
theorem le_level_of_isNumeric (numeric : operator.isNumeric = true) : 9 ≤ operator.level := by
  cases operator with
  | or | and | not | comparison | concatenation => exact absurd numeric Bool.false_ne_true
  | _ => exact Nat.le_of_ble_eq_true rfl

theorem level_ne_of_isNumeric (numeric : operator.isNumeric = true) : operator.level ≠ 10 := by
  cases operator with
  | or | and | not | comparison | concatenation => exact absurd numeric Bool.false_ne_true
  | _ => exact Nat.ne_of_beq_eq_false rfl

theorem ne_plus_of_mem_token (tight : 11 ≤ operator.level) : ∀ c ∈ operator.token, c ≠ '+' := by
  cases operator with
  | or | and | not | addition | concatenation => exact absurd tight (by decide)
  | comparison relation => cases relation <;> exact absurd tight (by decide)
  | _ => dsimp only [token]; decide

/-- Of the operators that bind more tightly than comparisons, only concatenation makes no numbers. -/
theorem isNumeric_or_eq (tight : 9 ≤ operator.level) :
    operator.isNumeric = true ∨ operator = concatenation := by
  cases operator with
  | or | and | not => exact absurd tight (by decide)
  | comparison relation => cases relation <;> exact absurd tight (by decide)
  | concatenation => exact .inr rfl
  | _ => exact .inl rfl

theorem double_takes_resultKind (numeric : operator.isNumeric = true) :
    Kind.double.takes (operator.resultKind kinds) = true := by
  cases operator with
  | or | and | not | comparison | concatenation => exact absurd numeric Bool.false_ne_true
  | addition | subtraction | multiplication | negation => exact Kind.double_takes_promoted kinds
  | division | square => rfl

/-- Operators on numbers accept nothing but numbers. -/
theorem takesAll_of_isNumeric (numeric : operator.isNumeric = true)
    (accepted : operator.accepts kinds = true) : Kind.double.takesAll kinds = true := by
  cases operator with
  | or | and | not | comparison | concatenation => exact absurd numeric Bool.false_ne_true
  | _ => exact (Bool.and_eq_true_iff.mp accepted).2

/-- Only a concatenation makes texts. -/
theorem eq_concatenation (takes : Kind.string.takes (operator.resultKind kinds) = true) :
    operator = concatenation := by
  have number : Kind.string.takes (Kind.promoted kinds) = false := by
    rcases Kind.promoted_eq kinds with same | same
    · rw [same]; rfl
    · rw [same]; rfl
  cases operator with
  | concatenation => rfl
  | addition | subtraction | multiplication | negation =>
    exact absurd takes (Bool.eq_false_iff.mp number)
  | _ => exact absurd takes Bool.false_ne_true

end OperatorKind

namespace Engine.Ordinary

variable {engine : Engine} {base : Tag} {text : List Char} (ordinary : engine.Ordinary base)

include ordinary

/-- A concatenation and an operator tighter than it do not take the same text. -/
theorem concatenation_skips {joins entry : OperatorEntry} {operands : List Tree}
    (isJoins : joins ∈ Library.operators base) (joining : joins.operator.kind = .concatenation)
    (registered : entry ∈ Library.operators base) (tight : 11 ≤ entry.level)
    (takes : entry.Takes engine text operands) : joins.Skips engine text := by
  intro others takesToo
  have chains : joins.operator.kind.Chains '+' .string := joining ▸ OperatorKind.chains_concatenation
  obtain ⟨_, all⟩ :=
    (OperatorEntry.exists_takes_of_chains ordinary isJoins chains).mp ⟨others, takesToo⟩
  obtain ⟨c, member⟩ := List.exists_mem_of_ne_nil _ entry.operator.kind.isToken.spelled
  have token := Library.mem_tokenChars c member
  have noPlus := beq_eq_false_iff_ne.mpr (OperatorKind.ne_plus_of_mem_token tight c member)
  have inside := OperatorEntry.mem_surfaceChars_of_takes ordinary registered takes c member
  obtain ⟨slice, present, further⟩ := (Dialect.mem_surfaceChars_iff
    (Library.isDelimiter_of_beq (by decide)) noPlus).mp inside
  obtain ⟨tree, read, string⟩ := all slice present
  rcases ordinary.tops_of_surface read token further with
    ⟨first, parts, tops, rfl⟩ | ⟨value, rfl, _, kinds⟩
  · have concatenates := OperatorKind.eq_concatenation string
    have plus := OperatorEntry.mem_surfaceChars_of_takes ordinary tops.registered tops.takes '+'
      (by rw [concatenates]; exact List.mem_singleton_self _)
    rw [Dialect.mem_surfaceChars_trim (fun c => Dialect.isDelimiter_of_isBlank) (by decide)] at plus
    exact absurd (beq_self_eq_true '+')
      (Bool.eq_false_iff.mp (Dialect.uncut_of_mem_slices present '+' plus))
  · have texts : ∀ kind, Kind.string.takes kind = true → kind ∈ [Kind.boolean, .string, .null] := by
      intro kind
      cases kind <;> decide
    exact kinds (texts _ string)

/-- A text that an arithmetic operator takes reads as a number. -/
theorem readsAs_double {entry : OperatorEntry} {operands : List Tree}
    (registered : entry ∈ Library.operators base) (numeric : entry.operator.kind.isNumeric = true)
    (takes : entry.Takes engine (Text.trim text) operands) : engine.ReadsAs .double text := by
  have tight : 9 ≤ entry.level := OperatorKind.le_level_of_isNumeric numeric
  obtain ⟨first, others, tops, below, read⟩ := ordinary.exists_tops registered takes
  refine ⟨_, read, ?_⟩
  rw [Tree.kind]
  rcases Nat.lt_or_ge first.level 9 with loose | firstTight
  · -- A looser operator would stand in one of the operands and make it a truth value.
    obtain ⟨c, member⟩ := List.exists_mem_of_ne_nil _ first.operator.kind.isToken.spelled
    have truth := OperatorKind.mem_truthChars loose c member
    have inside := OperatorEntry.mem_surfaceChars_of_takes ordinary tops.registered tops.takes c member
    obtain ⟨⟨parts, split, readParts⟩, accepted⟩ := takes
    rcases (OperatorEntry.mem_surfaceChars_iff ordinary registered split readParts).mp inside with
      between | ⟨part, place, further⟩
    · exact absurd truth (OperatorKind.not_mem_truthChars tight c between)
    · obtain ⟨operand, present, success⟩ := exists_operand_of_readsAll readParts place
      rw [Operator.accepts, Tree.kinds_eq_map] at accepted
      exact absurd (ordinary.kind_of_truthChar success truth further)
        (OperatorKind.ne_boolean_of_accepts tight accepted _ (List.mem_map_of_mem present))
  · rcases OperatorKind.isNumeric_or_eq firstTight with numeric | joining
    · exact OperatorKind.double_takes_resultKind numeric
    · have ten : first.level = 10 := congrArg OperatorKind.level joining
      have other : entry.level ≠ 10 := OperatorKind.level_ne_of_isNumeric numeric
      exact absurd tops.takes (ordinary.concatenation_skips tops.registered joining registered
        (by omega) takes others)

/-- A number behind a minus sign is a number. -/
theorem readsAs_double_cons (reads : engine.ReadsAs .double text) :
    engine.ReadsAs .double (['-'] ++ text) := by
  obtain ⟨entry, registered, negates⟩ : ∃ entry ∈ Library.operators base,
    entry.operator.kind = .negation := ⟨_, List.mem_of_getLast? rfl, rfl⟩
  have prefixes : entry.operator.kind.Prefixes .double := negates ▸ OperatorKind.prefixes_negation
  have token : entry.operator.kind.token = ['-'] := by rw [negates]; rfl
  obtain ⟨operands, takes⟩ := ordinary.exists_takes_trim_of_prefixes registered prefixes reads
  rw [token] at takes
  exact ordinary.readsAs_double registered (by rw [negates]; rfl) takes

/-- The square of a number is a number. -/
theorem readsAs_double_concat (reads : engine.ReadsAs .double text) :
    engine.ReadsAs .double (text ++ ['²']) := by
  obtain ⟨entry, registered, squares⟩ : ∃ entry ∈ Library.operators base,
    entry.operator.kind = .square :=
      ⟨_, List.mem_of_getElem? (i := 14) rfl, rfl⟩
  obtain ⟨operands, takes⟩ := ordinary.exists_takes_trim_of_square registered squares reads
  exact ordinary.readsAs_double registered (by rw [squares]; rfl) takes

/-- Numbers between the tokens of an arithmetic chain are a number. -/
theorem readsAs_double_of_slices {entry : OperatorEntry} {c : Char}
    (registered : entry ∈ Library.operators base) (numeric : entry.operator.kind.isNumeric = true)
    (chains : entry.operator.kind.Chains c .double)
    (all : ∀ slice ∈ Dialect.standard.slices (· == c) text, engine.ReadsAs .double slice) :
    engine.ReadsAs .double text := by
  rcases Dialect.standard.mem_surfaceChars_or_slices_eq c text with member | single
  · obtain ⟨operands, takes⟩ :=
      (ordinary.exists_takes_trim_of_chains registered chains).mpr ⟨member, all⟩
    exact ordinary.readsAs_double registered numeric takes
  · exact all text (by rw [single]; exact List.mem_singleton_self text)

/-- Put in front of a number, a minus sign joins its first slice, and the slices stay numbers. -/
theorem forall_slices_cons {c : Char} (token : c ∈ Library.tokenChars) (other : c ≠ '-')
    (all : ∀ slice ∈ Dialect.standard.slices (· == c) text, engine.ReadsAs .double slice) :
    ∀ slice ∈ Dialect.standard.slices (· == c) (['-'] ++ text), engine.ReadsAs .double slice := by
  obtain ⟨first, outer, slices, joined⟩ := Dialect.slices_append_left
    (Library.isDelimiter_of_beq token) ['-'] (by decide)
    (List.forall_mem_singleton.mpr (beq_eq_false_iff_ne.mpr other.symm)) text
  rw [slices, List.forall_mem_cons] at all
  rw [joined, List.forall_mem_cons]
  exact ⟨ordinary.readsAs_double_cons all.1, all.2⟩

/-- Put behind a number, the token of a square joins its last slice, and the slices stay numbers. -/
theorem forall_slices_concat {c : Char} (token : c ∈ Library.tokenChars) (other : c ≠ '²')
    (all : ∀ slice ∈ Dialect.standard.slices (· == c) text, engine.ReadsAs .double slice) :
    ∀ slice ∈ Dialect.standard.slices (· == c) (text ++ ['²']), engine.ReadsAs .double slice := by
  obtain ⟨inner, last, slices, joined⟩ := Dialect.slices_append_right
    (Library.isDelimiter_of_beq token) ['²']
    (List.forall_mem_singleton.mpr (beq_eq_false_iff_ne.mpr other.symm)) text
  rw [slices, List.forall_mem_append, List.forall_mem_singleton] at all
  rw [joined, List.forall_mem_append, List.forall_mem_singleton]
  exact ⟨all.1, ordinary.readsAs_double_concat all.2⟩

section Parts

variable {entry : OperatorEntry} {operands : List Tree} (registered : entry ∈ Library.operators base)
  (takes : entry.Takes engine text operands)
  (shorter : ∀ slice : List Char, slice.length < text.length → engine.ReadsAs .double slice →
    ∀ part ∈ Dialect.standard.slices (· == '*') slice, engine.ReadsAs .double part)

include registered takes shorter

/-- A chain falls apart into numbers where products are cut if all numbers shorter than it do: it is cut
at its own token first, and the cuts at both tokens can be made in either order. -/
theorem forall_product_slices_of_chains {c : Char} (numeric : entry.operator.kind.isNumeric = true)
    (chains : entry.operator.kind.Chains c .double) :
    ∀ slice ∈ Dialect.standard.slices (· == '*') text, engine.ReadsAs .double slice := by
  have token : c ∈ Library.tokenChars :=
    Library.mem_tokenChars c (chains.token ▸ List.mem_singleton_self c)
  have isToken : Dialect.standard.IsToken [c] := chains.token ▸ entry.operator.kind.isToken
  obtain ⟨inside, all⟩ :=
    (OperatorEntry.exists_takes_of_chains ordinary registered chains).mp ⟨operands, takes⟩
  have parts : ∀ slice ∈ Dialect.standard.slices (· == c) text,
      ∀ part ∈ Dialect.standard.slices (· == '*') slice, engine.ReadsAs .double part :=
    fun slice present =>
      shorter slice (Dialect.length_lt_of_mem_slices isToken inside present) (all slice present)
  have order : (fun d => d == c || d == '*') = fun d => d == '*' || d == c :=
    funext fun d => Bool.or_comm _ _
  rw [Dialect.forall_slices_slices (· == c) (Library.isDelimiter_of_beq (by decide)), order,
    ← Dialect.forall_slices_slices (· == '*') (Library.isDelimiter_of_beq token)] at parts
  exact fun slice present =>
    ordinary.readsAs_double_of_slices registered numeric chains (parts slice present)

/-- The token of a square joins the last of the slices of its operand. -/
theorem forall_product_slices_of_square (squares : entry.operator.kind = .square) :
    ∀ slice ∈ Dialect.standard.slices (· == '*') text, engine.ReadsAs .double slice := by
  obtain ⟨operand, same, reads⟩ :=
    (OperatorEntry.exists_takes_of_square ordinary registered squares).mp ⟨operands, takes⟩
  have all := shorter operand (by rw [same, List.length_append]; exact Nat.lt_succ_self _) reads
  rw [same]
  exact ordinary.forall_slices_concat (by decide) (by decide) all

/-- The sign in front of a number joins the first of the slices of the number. -/
theorem forall_product_slices_of_negation (negates : entry.operator.kind = .negation) :
    ∀ slice ∈ Dialect.standard.slices (· == '*') text, engine.ReadsAs .double slice := by
  have prefixes : entry.operator.kind.Prefixes .double := negates ▸ OperatorKind.prefixes_negation
  have token : entry.operator.kind.token = ['-'] := by rw [negates]; rfl
  obtain ⟨operand, same, reads⟩ :=
    (OperatorEntry.exists_takes_of_prefixes ordinary registered prefixes).mp ⟨operands, takes⟩
  rw [token] at same
  have all := shorter operand (by rw [same]; exact Nat.lt_succ_self _) reads
  rw [same]
  exact ordinary.forall_slices_cons (by decide) (by decide) all

end Parts

/-- A number falls apart into numbers where products are cut. -/
theorem forall_product_slices (reads : engine.ReadsAs .double text) :
    ∀ slice ∈ Dialect.standard.slices (· == '*') text, engine.ReadsAs .double slice := by
  obtain ⟨tree, read, takes⟩ := reads
  revert takes
  refine parse_induction (motive := fun text tree => Kind.double.takes tree.kind = true →
    ∀ slice ∈ Dialect.standard.slices (· == '*') text, engine.ReadsAs .double slice)
    ?_ text tree read
  intro text tree whole shorter takes
  rcases Dialect.standard.mem_surfaceChars_or_slices_eq '*' text with member | single
  swap
  · rw [single]
    exact List.forall_mem_singleton.mpr ⟨tree, whole, takes⟩
  rcases ordinary.tops_of_surface whole (by decide) member with
    ⟨entry, operands, tops, rfl⟩ | ⟨_, _, sign, _⟩
  swap
  · exact absurd sign (by decide)
  have isBlank_star (c : Char) (blank : Text.isBlank c = true) : (c == '*') = false := by
    apply beq_eq_false_iff_ne.mpr
    rintro rfl
    exact absurd blank (by decide)
  rw [← forall_slices_trim (Library.isDelimiter_of_beq (by decide)) isBlank_star]
  have trimmed := Text.length_trim_le text
  have part (slice : List Char) (length : slice.length < (Text.trim text).length)
      (reads : engine.ReadsAs .double slice) :
      ∀ part ∈ Dialect.standard.slices (· == '*') slice, engine.ReadsAs .double part := by
    obtain ⟨inner, read, takes⟩ := reads
    exact shorter slice inner (by omega) read takes
  have chained {c : Char} := ordinary.forall_product_slices_of_chains (c := c) tops.registered tops.takes part
  cases sort : entry.operator.kind with
  | or | and | not | comparison => rw [Tree.kind, sort] at takes; exact absurd takes Bool.false_ne_true
  | concatenation => rw [Tree.kind, sort] at takes; exact absurd takes Bool.false_ne_true
  | addition => exact chained (by rw [sort]; rfl) (sort ▸ OperatorKind.chains_addition)
  | subtraction add negate =>
    exact chained (by rw [sort]; rfl) (sort ▸ OperatorKind.chains_subtraction add negate)
  | multiplication => exact chained (by rw [sort]; rfl) (sort ▸ OperatorKind.chains_multiplication)
  | division multiply => exact chained (by rw [sort]; rfl) (sort ▸ OperatorKind.chains_division multiply)
  | square => exact ordinary.forall_product_slices_of_square tops.registered tops.takes part sort
  | negation => exact ordinary.forall_product_slices_of_negation tops.registered tops.takes part sort

end Engine.Ordinary

end Reckoner
