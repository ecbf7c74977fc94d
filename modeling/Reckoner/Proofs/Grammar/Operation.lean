import Reckoner.Proofs.Grammar.Standard
import Reckoner.Proofs.Source.Literal

/-! # Texts with a token at the surface

In an ordinary engine a text that has the character of a token at its surface is an operation, unless
it is a number, a date or a time with a sign. An operation is made by the entry of the lowest level that
takes the text, and whatever can be read ends at the surface.
-/

namespace Reckoner

open Dialect (standard)

namespace Library

def tokenChars : List Char := ['|', '&', '!', '=', '<', '>', '+', '-', '*', '/', '²']

/-- Every character of a token is one of those listed. -/
theorem mem_tokenChars {operator : OperatorKind} : ∀ c ∈ operator.token, c ∈ tokenChars := by
  cases operator with
  | comparison relation => cases relation <;> decide
  | _ => dsimp only [OperatorKind.token]; decide

/-- The characters that no word has: those of tokens, the delimiters and the separator. -/
def marks : List Char := tokenChars ++ ['(', ')', '"', ',']

section Marks

variable {c : Char} (mark : c ∈ marks)

include mark

theorem isCaseless_of_mem : Text.isCaseless c = true := by
  revert c
  decide +kernel

theorem isBlank_of_mem : Text.isBlank c = false := by
  revert c
  decide

theorem isWordChar_of_mem : Text.isWordChar c = false := by
  revert c
  decide

end Marks

theorem mem_marks {c : Char} (token : c ∈ tokenChars) : c ∈ marks := List.mem_append_left _ token

theorem mem_marks_of_isDelimiter {c : Char} (delimiter : standard.isDelimiter c = true) :
    c ∈ marks := by
  have delimiters : c ∈ ['(', ')', '"'] := by
    simpa [Dialect.isDelimiter, standard, or_assoc, or_comm, or_left_comm] using delimiter
  have all : ∀ c ∈ ['(', ')', '"'], c ∈ marks := by decide
  exact all c delimiters

variable {c : Char} (token : c ∈ tokenChars)

include token

theorem isPlainChar_of_mem : Text.isPlainChar c = false := by
  revert c
  decide

theorem isDelimiter_of_mem : standard.isDelimiter c = false := by
  revert c
  decide

theorem isDelimiter_of_beq (d : Char) (same : (d == c) = true) : standard.isDelimiter d = false :=
  isDelimiter_of_mem (beq_iff_eq.mp same ▸ token)

end Library

/-- Objects that stand under words are found under no text with a mark. -/
theorem Register.Worded.not_mem_marks {α : Type} {register : Register α} (worded : register.Worded)
    {text : List Char} {item : α} (found : register.find? text = some item) : ∀ c ∈ text, c ∉ Library.marks :=
  fun c member mark => absurd
    (worded.isWordChar_of_find? found c member (Library.isBlank_of_mem mark) (Library.isCaseless_of_mem mark))
    (Bool.eq_false_iff.mp (Library.isWordChar_of_mem mark))

/-- Names that are registered as words have no delimiters in them. -/
theorem Register.Worded.isDelimiter_of_find? {α : Type} {register : Register α} (worded : register.Worded)
    {text : List Char} {item : α} (found : register.find? text = some item) :
    ∀ c ∈ text, standard.isDelimiter c = false := fun c member => Bool.eq_false_iff.mpr fun delimiter =>
  worded.not_mem_marks found c member (Library.mem_marks_of_isDelimiter delimiter)

/-- The tokens of the library can be looked for character by character. -/
theorem OperatorKind.isToken (operator : OperatorKind) : standard.IsToken operator.token := by
  refine ⟨?_, ?_, fun c member => Library.isDelimiter_of_mem (Library.mem_tokenChars c member)⟩
  · cases operator with
    | comparison relation => cases relation <;> decide
    | _ => exact List.cons_ne_nil _ _
  · cases operator with
    | comparison relation => cases relation <;> decide
    | _ => dsimp only [token]; decide

namespace OperatorEntry

variable {base : Tag} {entry : OperatorEntry} (registered : entry ∈ Library.operators base)
  {text : List Char} {parts : List (List Char)}

include registered

/-- An operator between its operands leaves the pieces between its tokens. -/
theorem fragments?_of_between (between : entry.operator.kind.isUnary = false) :
    entry.fragments? standard text = standard.split? entry.operator.kind.token text := by
  unfold fragments?
  rw [Library.spelling_of_mem registered, if_neg entry.operator.kind.isToken.spelled, between]
  rfl

/-- An operator in front of its operand leaves what follows the token. -/
theorem fragments?_of_before (unary : entry.operator.kind.isUnary = true)
    (before : entry.operator.kind.isSuffix = false) :
    entry.fragments? standard text = some parts ↔
      ∃ operand, parts = [operand] ∧ text = entry.operator.kind.token ++ operand := by
  unfold fragments?
  rw [Library.spelling_of_mem registered, if_neg entry.operator.kind.isToken.spelled, unary, before]
  simp only [Bool.not_true, Bool.false_eq_true, if_false, Option.map_eq_some_iff,
    Text.afterSpelling?_eq_some_iff entry.operator.kind.isToken.letterless]
  exact ⟨fun ⟨operand, same, parts⟩ => ⟨operand, parts.symm, same⟩,
    fun ⟨operand, parts, same⟩ => ⟨operand, same, parts.symm⟩⟩

/-- An operator behind its operand leaves what precedes the token. -/
theorem fragments?_of_behind (unary : entry.operator.kind.isUnary = true)
    (behind : entry.operator.kind.isSuffix = true) :
    entry.fragments? standard text = some parts ↔
      ∃ operand, parts = [operand] ∧ text = operand ++ entry.operator.kind.token := by
  unfold fragments?
  rw [Library.spelling_of_mem registered, if_neg entry.operator.kind.isToken.spelled, unary, behind]
  simp only [Bool.not_true, Bool.false_eq_true, if_false, if_true, Option.map_eq_some_iff,
    Text.beforeSpelling?_eq_some_iff entry.operator.kind.isToken.letterless]
  exact ⟨fun ⟨operand, same, parts⟩ => ⟨operand, parts.symm, same⟩,
    fun ⟨operand, parts, same⟩ => ⟨operand, same, parts.symm⟩⟩

end OperatorEntry

namespace Engine

variable {engine : Engine} {base : Tag} {text : List Char} {tree : Tree}

/-- The entry takes the text, and no entry of a lower level does. -/
structure Tops (engine : Engine) (base : Tag) (entry : OperatorEntry) (text : List Char)
    (operands : List Tree) : Prop where
  registered : entry ∈ Library.operators base
  takes : entry.Takes engine text operands
  skipped : ∀ other ∈ Library.operators base, other.level < entry.level → other.Skips engine text

namespace Ordinary

variable (ordinary : engine.Ordinary base)

include ordinary

/-- A text with a mark in it is no name. -/
theorem named?_eq_none {c : Char} (mark : c ∈ Library.marks) (member : c ∈ text) :
    engine.named? text = none := by
  have absent {α : Type} {register : Register α} (worded : register.Worded) :
      register.find? text = none := by
    cases found : register.find? text with
    | none => rfl
    | some item => exact absurd mark (worded.not_mem_marks found c member)
  rw [named?, absent ordinary.constants, absent ordinary.inputs]
  rfl

/-- A name has no marks. -/
theorem not_mem_of_named? (named : engine.named? text = some tree) :
    ∀ c ∈ text, c ∉ Library.marks := fun _ member mark =>
  absurd ((ordinary.named?_eq_none mark member).symm.trans named) nofun

/-- Only its opening delimiter is at the surface of a block. -/
theorem scan_of_block {inner : List Char}
    (enclosed : engine.dialect.enclosed? engine.dialect.blockOpen engine.dialect.blockClose text =
      some inner) :
    Dialect.standard.surfaceChars text = ['('] ∧
      Dialect.standard.scan Nesting.surface text = Nesting.surface := by
  rw [ordinary.dialect] at enclosed
  exact Dialect.scan_of_enclosed? (by decide) enclosed

/-- Only its name and the opening delimiter are at the surface of a call. -/
theorem scan_of_call {function : Function} {parts : List (List Char)}
    (called : engine.call? text = some (function, parts)) :
    (∀ c ∈ Dialect.standard.surfaceChars text, c ∈ Library.marks → c = '(') ∧
      Dialect.standard.scan Nesting.surface text = Nesting.surface := by
  obtain ⟨⟨name, interior⟩, split, called⟩ := Option.bind_eq_some_iff.mp called
  obtain ⟨found, place, _⟩ := Option.bind_eq_some_iff.mp called
  rw [ordinary.dialect] at split
  obtain ⟨inner, enclosed, same⟩ := Option.map_eq_some_iff.mp split
  obtain ⟨rfl, rfl⟩ := Prod.mk.inj same
  obtain ⟨surface, balanced⟩ := Dialect.scan_of_enclosed? (by decide) enclosed
  have plain := ordinary.functions.isDelimiter_of_find? place
  rw [← List.takeWhile_append_dropWhile (p := (· ≠ Dialect.standard.functionOpen)) (l := text),
    Dialect.surfaceChars, Dialect.surfaceFrom_append, Dialect.scan_append,
    Dialect.scan_of_plain plain, Dialect.surfaceFrom_of_plain plain, ← Dialect.surfaceChars, surface,
    balanced]
  refine ⟨List.forall_mem_append.mpr ⟨fun c member mark => ?_, ?_⟩, rfl⟩
  · exact absurd mark (ordinary.functions.not_mem_marks place c member)
  · exact List.forall_mem_singleton.mpr fun _ => rfl

/-- A text with the character of a token at its surface is no block. -/
theorem bare_of_mem {c : Char} (token : c ∈ Library.tokenChars)
    (member : c ∈ Dialect.standard.surfaceChars text) :
    engine.dialect.enclosed? engine.dialect.blockOpen engine.dialect.blockClose text = none := by
  cases enclosed : engine.dialect.enclosed? engine.dialect.blockOpen engine.dialect.blockClose text with
  | none => rfl
  | some inner =>
    rw [(ordinary.scan_of_block enclosed).1, List.mem_singleton] at member
    subst member
    exact absurd token (by decide)

/-- An entry that is tried for a text is one of the library's. -/
theorem mem_operators {entry : OperatorEntry} {before after : List OperatorEntry}
    (entries : engine.operators = before ++ entry :: after) : entry ∈ Library.operators base := by
  rw [← ordinary.operators, entries]
  exact List.mem_append_right _ (List.mem_cons_self ..)

/-- Whatever can be read ends at the surface. -/
theorem scan_of_parse (read : engine.parse text = .ok tree) :
    Dialect.standard.scan Nesting.surface text = Nesting.surface := by
  refine parse_induction
    (motive := fun text _ => Dialect.standard.scan Nesting.surface text = Nesting.surface)
    ?_ text tree read
  intro text tree whole shorter
  rw [← Dialect.scan_trim fun c => Dialect.isDelimiter_of_isBlank]
  have trimmed := Text.length_trim_le text
  cases makes_of_parse whole with
  | block enclosed => exact (ordinary.scan_of_block enclosed).2
  | name named =>
    refine Dialect.scan_of_plain (fun c member => Bool.eq_false_iff.mpr fun delimiter => ?_) _
    exact ordinary.not_mem_of_named? named c member (Library.mem_marks_of_isDelimiter delimiter)
  | @operation before after entry operands entries _ takes =>
    obtain ⟨⟨parts, fragments, read⟩, _⟩ := takes
    have registered := ordinary.mem_operators entries
    have balanced : ∀ part ∈ parts, Dialect.standard.scan Nesting.surface part = Nesting.surface := by
      intro part member
      obtain ⟨operand, _, success⟩ := exists_operand_of_readsAll read member
      have length := OperatorEntry.length_of_mem_fragments? fragments member
      exact shorter part operand (by omega) success
    have plain := entry.operator.kind.isToken.plain
    rw [ordinary.dialect] at fragments
    cases unary : entry.operator.kind.isUnary with
    | false =>
      rw [OperatorEntry.fragments?_of_between registered unary] at fragments
      exact Dialect.scan_of_split? entry.operator.kind.isToken fragments balanced
    | true =>
      cases suffix : entry.operator.kind.isSuffix with
      | false =>
        obtain ⟨operand, rfl, same⟩ :=
          (OperatorEntry.fragments?_of_before registered unary suffix).mp fragments
        rw [same, Dialect.scan_append, Dialect.scan_of_plain plain,
          balanced operand (List.mem_singleton_self _)]
      | true =>
        obtain ⟨operand, rfl, same⟩ :=
          (OperatorEntry.fragments?_of_behind registered unary suffix).mp fragments
        rw [same, Dialect.scan_append, balanced operand (List.mem_singleton_self _),
          Dialect.scan_of_plain plain]
  | call called => exact (ordinary.scan_of_call called).2
  | literal written =>
    rw [ordinary.dialect] at written
    exact (Dialect.scan_of_literal? written).1

end Ordinary

end Engine

namespace OperatorEntry

variable {engine : Engine} {base : Tag} {entry : OperatorEntry} {text : List Char}
  (ordinary : engine.Ordinary base) (registered : entry ∈ Library.operators base)

include ordinary registered

/-- The surface of a text that an operator takes is its token and the surfaces of the fragments. -/
theorem mem_surfaceChars_iff {parts : List (List Char)} {operands : List Tree} {c : Char}
    (split : entry.fragments? engine.dialect text = some parts)
    (read : engine.ReadsAll parts operands) :
    c ∈ standard.surfaceChars text ↔
      c ∈ entry.operator.kind.token ∨ ∃ part ∈ parts, c ∈ standard.surfaceChars part := by
  have isToken := entry.operator.kind.isToken
  rw [ordinary.dialect] at split
  cases unary : entry.operator.kind.isUnary with
  | false =>
    rw [fragments?_of_between registered unary] at split
    exact Dialect.mem_surfaceChars_of_split? isToken split
  | true =>
    cases suffix : entry.operator.kind.isSuffix with
    | false =>
      obtain ⟨operand, rfl, rfl⟩ := (fragments?_of_before registered unary suffix).mp split
      rw [Dialect.surfaceChars, Dialect.surfaceFrom_append, Dialect.scan_of_plain isToken.plain,
        Dialect.surfaceFrom_of_plain isToken.plain, List.mem_append]
      simp only [List.mem_singleton, exists_eq_left]
      rfl
    | true =>
      obtain ⟨operand, rfl, rfl⟩ := (fragments?_of_behind registered unary suffix).mp split
      obtain ⟨tree, _, success⟩ :=
        Engine.exists_operand_of_readsAll read (List.mem_singleton_self operand)
      rw [Dialect.surfaceChars, Dialect.surfaceFrom_append, ordinary.scan_of_parse success,
        Dialect.surfaceFrom_of_plain isToken.plain, List.mem_append, or_comm]
      simp only [List.mem_singleton, exists_eq_left]
      rfl

/-- The characters of a token are at the surface of every text that its operator takes. -/
theorem mem_surfaceChars_of_takes {operands : List Tree} (takes : entry.Takes engine text operands) :
    ∀ c ∈ entry.operator.kind.token, c ∈ standard.surfaceChars text := by
  obtain ⟨⟨parts, split, read⟩, _⟩ := takes
  exact fun c member =>
    (mem_surfaceChars_iff ordinary registered split read).mpr (.inl member)

end OperatorEntry

namespace Engine

variable {engine : Engine} {base : Tag} {text : List Char} {tree : Tree}

namespace Ordinary

variable (ordinary : engine.Ordinary base)

include ordinary

/-- The character of a token at the surface of an expression belongs to the operator on top of it, or
is the sign of a number, a date or a time. -/
theorem tops_of_surface (read : engine.parse text = .ok tree) {c : Char}
    (token : c ∈ Library.tokenChars) (member : c ∈ Dialect.standard.surfaceChars text) :
    (∃ entry operands, engine.Tops base entry (Text.trim text) operands ∧
        tree = .operation entry.operator operands) ∨
      ∃ value, tree = .ofValue value ∧ Text.isSign c = true ∧
        value.kind ∉ [Kind.boolean, .string, .null] := by
  have inside := (Dialect.mem_surfaceChars_trim (fun c => Dialect.isDelimiter_of_isBlank)
    (Library.isBlank_of_mem (Library.mem_marks token))).mpr member
  cases makes_of_parse read with
  | block enclosed => cases ordinary.bare_of_mem token inside ▸ enclosed
  | name named =>
    exact absurd (Library.mem_marks token)
      (ordinary.not_mem_of_named? named c (Dialect.mem_of_mem_surfaceFrom inside))
  | @operation before after entry operands entries skipped takes =>
    have registered := ordinary.mem_operators entries
    rw [ordinary.operators] at entries
    refine .inl ⟨entry, operands, ⟨registered, takes, fun other present below => ?_⟩, rfl⟩
    exact skipped other ((Library.mem_before_iff entries).mpr ⟨present, below⟩)
  | call called =>
    obtain rfl := (ordinary.scan_of_call called).1 c inside (Library.mem_marks token)
    exact absurd token (by decide)
  | @literal value written =>
    rw [ordinary.dialect] at written
    rcases (Dialect.scan_of_literal? written).2 c inside with plain | rfl | ⟨sign, kinds⟩
    · exact absurd plain (Bool.eq_false_iff.mp (Library.isPlainChar_of_mem token))
    · exact absurd token (by decide)
    · exact .inr ⟨value, rfl, sign, kinds⟩

/-- A text that an entry takes is the operation of this entry or of one of a lower level. -/
theorem exists_tops {entry : OperatorEntry} {operands : List Tree}
    (registered : entry ∈ Library.operators base)
    (takes : entry.Takes engine (Text.trim text) operands) :
    ∃ first others, engine.Tops base first (Text.trim text) others ∧ first.level ≤ entry.level ∧
      engine.parse text = .ok (.operation first.operator others) := by
  obtain ⟨c, member⟩ := List.exists_mem_of_ne_nil _ entry.operator.kind.isToken.spelled
  have token := Library.mem_tokenChars c member
  have inside := OperatorEntry.mem_surfaceChars_of_takes ordinary registered takes c member
  have unnamed := ordinary.named?_eq_none (Library.mem_marks token)
    (Dialect.mem_of_mem_surfaceFrom inside)
  have bare := ordinary.bare_of_mem token inside
  obtain ⟨before, first, after, others, entries, place, skipped, takesToo, read⟩ :=
    exists_parse_of_takes bare unnamed (ordinary.operators ▸ registered) takes
  rw [ordinary.operators] at entries
  have present : first ∈ Library.operators base := by
    rw [entries]
    exact List.mem_append_right _ (List.mem_cons_self ..)
  refine ⟨first, others, ⟨present, takesToo, fun other here below => ?_⟩, ?_, read⟩
  · exact skipped other ((Library.mem_before_iff entries).mpr ⟨here, below⟩)
  · by_contra below
    have earlier := (Library.mem_before_iff entries).mpr ⟨registered, Nat.lt_of_not_le below⟩
    exact skipped entry earlier operands takes

end Ordinary

end Engine

end Reckoner
