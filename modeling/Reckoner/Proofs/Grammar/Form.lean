import Reckoner.Proofs.Grammar.Operation

/-! # What operators take

Three forms of operators take a text by what its parts read as: chains of operands between one-character
tokens, comparisons of two operands, and single operands behind or in front of a token. None of these
conditions depends on blanks at the ends of the text.
-/

namespace Reckoner

open Dialect (standard)

namespace Engine

variable {engine : Engine} {kind : Kind} {text : List Char}

/-- The text reads as an expression whose values `kind` takes. -/
def ReadsAs (engine : Engine) (kind : Kind) (text : List Char) : Prop :=
  ∃ tree, engine.parse text = .ok tree ∧ kind.takes tree.kind = true

/-- Blanks at the ends of a text make no difference to what is read. -/
theorem parse_trim (engine : Engine) (text : List Char) :
    engine.parse (Text.trim text) = engine.parse text := by
  rw [parse_eq, parse_eq, Text.trim_trim]

/-- Texts that are equal but for blanks at their ends are read as the same. -/
theorem parse_congr {text other : List Char} (same : Text.trim text = Text.trim other) :
    engine.parse text = engine.parse other := by
  rw [← parse_trim, same, parse_trim]

theorem readsAs_congr {text other : List Char} (same : Text.trim text = Text.trim other) :
    engine.ReadsAs kind text ↔ engine.ReadsAs kind other := by
  rw [ReadsAs, ReadsAs, parse_congr same]

/-- Texts that all read as expressions of a kind are the texts of operands of that kind. -/
theorem exists_readsAll_iff {parts : List (List Char)} :
    (∃ operands, engine.ReadsAll parts operands ∧ kind.takesAll (Tree.kinds operands) = true) ↔
      ∀ part ∈ parts, engine.ReadsAs kind part := by
  induction parts with
  | nil => exact ⟨fun _ => List.forall_mem_nil _, fun _ => ⟨[], .nil, rfl⟩⟩
  | cons part rest ih =>
    rw [List.forall_mem_cons, ← ih]
    constructor
    · rintro ⟨operands, read, takes⟩
      cases read with
      | cons here others =>
        rw [Tree.kinds, Kind.takesAll, List.all_cons, Bool.and_eq_true] at takes
        exact ⟨⟨_, here, takes.1⟩, _, others, takes.2⟩
    · rintro ⟨⟨tree, here, takes⟩, operands, others, takesAll⟩
      refine ⟨tree :: operands, .cons here others, ?_⟩
      rw [Tree.kinds, Kind.takesAll, List.all_cons, takes, Bool.true_and]
      exact takesAll

end Engine

namespace OperatorKind

/-- The operator takes two or more operands of a kind between tokens of one character. -/
structure Chains (operator : OperatorKind) (c : Char) (kind : Kind) : Prop where
  between : operator.isUnary = false
  token : operator.token = [c]
  accepts : ∀ kinds, operator.accepts kinds = (2 ≤ kinds.length && kind.takesAll kinds)

theorem chains_or : or.Chains '|' .boolean := ⟨rfl, rfl, fun _ => rfl⟩

theorem chains_and : and.Chains '&' .boolean := ⟨rfl, rfl, fun _ => rfl⟩

theorem chains_addition : addition.Chains '+' .double := ⟨rfl, rfl, fun _ => rfl⟩

theorem chains_concatenation : concatenation.Chains '+' .string := ⟨rfl, rfl, fun _ => rfl⟩

theorem chains_subtraction (add negate : Tag) : (subtraction add negate).Chains '-' .double :=
  ⟨rfl, rfl, fun _ => rfl⟩

theorem chains_multiplication : multiplication.Chains '*' .double := ⟨rfl, rfl, fun _ => rfl⟩

theorem chains_division (multiply : Tag) : (division multiply).Chains '/' .double :=
  ⟨rfl, rfl, fun _ => rfl⟩

/-- The operator takes one operand of a kind behind its token. -/
structure Prefixes (operator : OperatorKind) (kind : Kind) : Prop where
  unary : operator.isUnary = true
  before : operator.isSuffix = false
  accepts : ∀ kinds, operator.accepts kinds = (kinds.length == 1 && kind.takesAll kinds)

theorem prefixes_not : not.Prefixes .boolean := ⟨rfl, rfl, fun _ => rfl⟩

theorem prefixes_negation : negation.Prefixes .double := ⟨rfl, rfl, fun _ => rfl⟩

end OperatorKind

namespace OperatorEntry

variable {engine : Engine} {base : Tag} {entry : OperatorEntry} {kind : Kind} {text : List Char}
  (ordinary : engine.Ordinary base) (registered : entry ∈ Library.operators base)

include ordinary registered

/-- A chain of operands takes a text whose slices read as operands. -/
theorem exists_takes_of_chains {c : Char} (chains : entry.operator.kind.Chains c kind) :
    (∃ operands, entry.Takes engine text operands) ↔
      c ∈ standard.surfaceChars text ∧
        ∀ slice ∈ standard.slices (· == c) text, engine.ReadsAs kind slice := by
  have isToken : standard.IsToken [c] := chains.token ▸ entry.operator.kind.isToken
  have fragments : entry.fragments? standard text = standard.split? [c] text := by
    rw [fragments?_of_between registered chains.between, chains.token]
  rw [← Engine.exists_readsAll_iff]
  constructor
  · rintro ⟨operands, ⟨parts, split, read⟩, accepted⟩
    rw [ordinary.dialect, fragments, Dialect.split?_singleton_eq_some_iff isToken] at split
    obtain ⟨member, rfl⟩ := split
    rw [Operator.accepts, chains.accepts, Bool.and_eq_true] at accepted
    exact ⟨member, operands, read, accepted.2⟩
  · rintro ⟨member, operands, read, takes⟩
    refine ⟨operands, ⟨_, ?_, read⟩, ?_⟩
    · rw [ordinary.dialect, fragments, Dialect.split?_singleton_eq_some_iff isToken]
      exact ⟨member, rfl⟩
    · have lengths := Dialect.two_le_length_slicesFrom (· == c) member (beq_self_eq_true c)
      rw [Operator.accepts, chains.accepts, takes, Bool.and_true, decide_eq_true_eq,
        Tree.kinds_eq_map, List.length_map, ← read.length_eq]
      exact lengths

omit registered in
/-- An operator of one operand takes a text that leaves one of its operands. -/
theorem exists_takes_of_single {around : List Char → List Char}
    (fragments : ∀ parts, entry.fragments? standard text = some parts ↔
      ∃ operand, parts = [operand] ∧ text = around operand)
    (accepts : ∀ kinds, entry.operator.kind.accepts kinds = (kinds.length == 1 && kind.takesAll kinds)) :
    (∃ operands, entry.Takes engine text operands) ↔
      ∃ operand, text = around operand ∧ engine.ReadsAs kind operand := by
  constructor
  · rintro ⟨operands, ⟨parts, split, read⟩, accepted⟩
    rw [ordinary.dialect] at split
    obtain ⟨operand, rfl, same⟩ := (fragments parts).mp split
    rw [Operator.accepts, accepts, Bool.and_eq_true] at accepted
    refine ⟨operand, same, ?_⟩
    exact Engine.exists_readsAll_iff.mp ⟨operands, read, accepted.2⟩ operand (List.mem_singleton_self _)
  · rintro ⟨operand, same, tree, read, takes⟩
    refine ⟨[tree], ⟨[operand], ?_, .cons read .nil⟩, ?_⟩
    · rw [ordinary.dialect]
      exact (fragments [operand]).mpr ⟨operand, rfl, same⟩
    · rw [Operator.accepts, accepts, Tree.kinds, Tree.kinds, Kind.takesAll, List.all_cons, takes]
      rfl

/-- An operator in front of its operand takes a text that is one of its operands behind its token. -/
theorem exists_takes_of_prefixes (prefixes : entry.operator.kind.Prefixes kind) :
    (∃ operands, entry.Takes engine text operands) ↔
      ∃ operand, text = entry.operator.kind.token ++ operand ∧ engine.ReadsAs kind operand :=
  exists_takes_of_single ordinary
    (fun _ => fragments?_of_before registered prefixes.unary prefixes.before) prefixes.accepts

/-- The square takes a text that is a number in front of its token. -/
theorem exists_takes_of_square (square : entry.operator.kind = .square) :
    (∃ operands, entry.Takes engine text operands) ↔
      ∃ operand, text = operand ++ ['²'] ∧ engine.ReadsAs .double operand := by
  have unary : entry.operator.kind.isUnary = true := by rw [square]; rfl
  have suffix : entry.operator.kind.isSuffix = true := by rw [square]; rfl
  have token : entry.operator.kind.token = ['²'] := by rw [square]; rfl
  rw [← token]
  exact exists_takes_of_single ordinary (fun _ => fragments?_of_behind registered unary suffix)
    fun kinds => by rw [square]; rfl

/-- A comparison takes a text that its token cuts once, into operands of kinds that go together. -/
theorem takes_iff_of_comparison {relation : Comparison} {left right : Tree}
    (comparison : entry.operator.kind = .comparison relation) :
    entry.Takes engine text [left, right] ↔
      ∃ front back, standard.cut? entry.operator.kind.token text = some (front, back) ∧
        standard.cut? entry.operator.kind.token back = none ∧ engine.parse front = .ok left ∧
        engine.parse back = .ok right ∧ left.kind.compatible right.kind = true := by
  have unary : entry.operator.kind.isUnary = false := by rw [comparison]; rfl
  have accepts : entry.operator.accepts [left, right] = left.kind.compatible right.kind := by
    rw [Operator.accepts, comparison, ← Kind.isSome_join?, Tree.kinds, Tree.kinds, Tree.kinds,
      OperatorKind.accepts, Kind.joinAll?, List.foldlM_cons]
    exact congrArg Option.isSome (bind_pure _)
  have fragments (parts : List (List Char)) : entry.fragments? engine.dialect text = some parts ↔
      standard.split? entry.operator.kind.token text = some parts := by
    rw [ordinary.dialect, fragments?_of_between registered unary]
  rw [Takes, Splits, accepts]
  simp only [fragments]
  constructor
  · rintro ⟨⟨parts, split, read⟩, together⟩
    obtain ⟨front, rest, first, others, rfl⟩ := List.forall₂_cons_right_iff.mp read
    obtain ⟨back, tail, second, none, rfl⟩ := List.forall₂_cons_right_iff.mp others
    obtain rfl := List.forall₂_nil_right_iff.mp none
    obtain ⟨cut, uncut⟩ := Dialect.split?_eq_pair_iff.mp split
    exact ⟨front, back, cut, uncut, first, second, together⟩
  · rintro ⟨front, back, cut, uncut, first, second, together⟩
    exact ⟨⟨[front, back], Dialect.split?_eq_pair_iff.mpr ⟨cut, uncut⟩,
      .cons first (.cons second .nil)⟩, together⟩

omit ordinary registered in
/-- A comparison accepts two operands. -/
theorem exists_pair_of_comparison {relation : Comparison} {operands : List Tree}
    (comparison : entry.operator.kind = .comparison relation)
    (takes : entry.Takes engine text operands) : ∃ left right, operands = [left, right] := by
  have accepted := takes.2
  rw [Operator.accepts, comparison, OperatorKind.accepts, Bool.and_eq_true, beq_iff_eq,
    Tree.kinds_eq_map, List.length_map, List.length_eq_two] at accepted
  exact accepted.1

end OperatorEntry

namespace Engine

variable {engine : Engine} {base : Tag} {kind : Kind} {text : List Char}

/-- Blanks at the ends of a text do not change what its slices read as. -/
theorem forall_slices_trim {cuts : Char → Bool}
    (plain : ∀ c, cuts c = true → Dialect.standard.isDelimiter c = false)
    (uncut : ∀ c, Text.isBlank c = true → cuts c = false) :
    (∀ slice ∈ Dialect.standard.slices cuts (Text.trim text), engine.ReadsAs kind slice) ↔
      ∀ slice ∈ Dialect.standard.slices cuts text, engine.ReadsAs kind slice := by
  have trimmed (slices : List (List Char)) : (∀ slice ∈ slices, engine.ReadsAs kind slice) ↔
      ∀ slice ∈ slices.map Text.trim, engine.ReadsAs kind slice := by
    rw [List.forall_mem_map]
    exact forall₂_congr fun slice _ => readsAs_congr (Text.trim_trim slice).symm
  rw [trimmed, Dialect.map_trim_slices plain (fun c => Dialect.isDelimiter_of_isBlank) uncut,
    ← trimmed]

namespace Ordinary

variable (ordinary : engine.Ordinary base) {entry : OperatorEntry}
  (registered : entry ∈ Library.operators base)

include ordinary registered

/-- A chain takes a text, blanks at its ends or not, whose slices read as operands. -/
theorem exists_takes_trim_of_chains {c : Char} (chains : entry.operator.kind.Chains c kind) :
    (∃ operands, entry.Takes engine (Text.trim text) operands) ↔
      c ∈ Dialect.standard.surfaceChars text ∧
        ∀ slice ∈ Dialect.standard.slices (· == c) text, engine.ReadsAs kind slice := by
  have token : c ∈ Library.tokenChars :=
    Library.mem_tokenChars c (chains.token ▸ List.mem_singleton_self c)
  have noBlank := Library.isBlank_of_mem (Library.mem_marks token)
  have uncut (d : Char) (blank : Text.isBlank d = true) : (d == c) = false := by
    refine beq_eq_false_iff_ne.mpr ?_
    rintro rfl
    exact absurd blank (Bool.eq_false_iff.mp noBlank)
  rw [OperatorEntry.exists_takes_of_chains ordinary registered chains,
    Dialect.mem_surfaceChars_trim (fun c => Dialect.isDelimiter_of_isBlank) noBlank,
    forall_slices_trim (Library.isDelimiter_of_beq token) uncut]

/-- The token of a prefix operator in front of an operand makes the entry take the text. -/
theorem exists_takes_trim_of_prefixes (prefixes : entry.operator.kind.Prefixes kind)
    (reads : engine.ReadsAs kind text) :
    ∃ operands, entry.Takes engine (Text.trim (entry.operator.kind.token ++ text)) operands := by
  have visible : ∀ c ∈ entry.operator.kind.token, Text.isBlank c = false := fun c member =>
    Library.isBlank_of_mem (Library.mem_marks (Library.mem_tokenChars c member))
  have trimmed := Text.trim_append_append entry.operator.kind.isToken.spelled visible [] text
  rw [List.nil_append] at trimmed
  rw [trimmed, OperatorEntry.exists_takes_of_prefixes ordinary registered prefixes]
  exact ⟨Text.trimEnd text, rfl, (readsAs_congr (Text.trim_trimEnd text)).mpr reads⟩

/-- The token of the square behind a number makes the entry take the text. -/
theorem exists_takes_trim_of_square (square : entry.operator.kind = .square)
    (reads : engine.ReadsAs .double text) :
    ∃ operands, entry.Takes engine (Text.trim (text ++ ['²'])) operands := by
  rw [Text.trim_concat (by decide), OperatorEntry.exists_takes_of_square ordinary registered square]
  exact ⟨Text.trimStart text, rfl, (readsAs_congr (Text.trim_trimStart text)).mpr reads⟩

/-- Blanks at the ends of a comparison make no difference to its operands. -/
theorem takes_trim_of_comparison {relation : Comparison} {left right : Tree}
    (comparison : entry.operator.kind = .comparison relation)
    (takes : entry.Takes engine text [left, right]) :
    entry.Takes engine (Text.trim text) [left, right] := by
  have isToken := entry.operator.kind.isToken
  have visible : ∀ c ∈ entry.operator.kind.token, Text.isBlank c = false := fun c member =>
    Library.isBlank_of_mem (Library.mem_marks (Library.mem_tokenChars c member))
  obtain ⟨front, back, cut, uncut, first, second, together⟩ :=
    (OperatorEntry.takes_iff_of_comparison ordinary registered comparison).mp takes
  have same := ((Dialect.cut?_eq_some_iff isToken).mp cut).1.same
  obtain ⟨behind, ending, blank⟩ := Text.exists_trimEnd back
  refine (OperatorEntry.takes_iff_of_comparison ordinary registered comparison).mpr
    ⟨Text.trimStart front, Text.trimEnd back, ?_, ?_, ?_, ?_, together⟩
  · rw [same] at cut ⊢
    exact Dialect.cut?_trim isToken visible (fun c => Dialect.isDelimiter_of_isBlank) cut
  · rw [ending] at uncut
    exact Dialect.cut?_eq_none_of_part isToken [] uncut rfl
  · rw [← first]
    exact parse_congr (Text.trim_trimStart front)
  · rw [← second]
    exact parse_congr (Text.trim_trimEnd back)

end Ordinary

end Engine

end Reckoner
