import Reckoner.Proofs.Grammar.Form
import Reckoner.Proofs.Source.Balance

/-! # Whatever can be read is a whole

An expression never closes a block or call that was opened in front of it, ends outside of quotes, has
something visible, and shows no separator at its surface. So it can be put between delimiters, beside
tokens and among arguments, and it stays one piece there.
-/

namespace Reckoner

open Dialect (standard)

namespace Text

theorem trim_eq_nil_iff {text : List Char} : trim text = [] ↔ ∀ c ∈ text, isBlank c = true := by
  refine ⟨fun empty => ?_, fun blank => ?_⟩
  · obtain ⟨front, back, same, blank, blankToo⟩ := exists_trim text
    rw [empty, List.append_nil] at same
    exact same ▸ List.forall_mem_append.mpr ⟨blank, blankToo⟩
  · rw [trim, trimStart_eq_nil blank]
    rfl

/-- The text is balanced, something of it is visible, and no separator divides it. -/
structure Whole (text : List Char) : Prop where
  balanced : standard.Balanced text
  spelled : trim text ≠ []
  undivided : standard.cut? [','] text = none

theorem balanced_of_blank {text : List Char} (blank : ∀ c ∈ text, isBlank c = true) :
    standard.Balanced text :=
  Dialect.balanced_of_plain fun c member => Dialect.isDelimiter_of_isBlank (blank c member)

/-- Blanks at the ends of a text do not unbalance it. -/
theorem balanced_of_trim {text : List Char} (balanced : standard.Balanced (trim text)) :
    standard.Balanced text := by
  obtain ⟨front, back, same, blank, blankToo⟩ := exists_trim text
  rw [same]
  exact ((balanced_of_blank blank).append balanced).append (balanced_of_blank blankToo)

end Text

namespace Dialect

/-- The separator of arguments is looked for like a token. -/
theorem isToken_separator : standard.IsToken [','] := ⟨by decide, by decide, by decide⟩

/-- A separator divides only texts that show it. -/
theorem undivided_of_surface {text : List Char} (silent : ',' ∉ standard.surfaceChars text) :
    standard.cut? [','] text = none :=
  (cut?_eq_none_iff isToken_separator).mpr fun _ _ stands =>
    silent (stands.mem_surfaceChars isToken_separator (List.mem_singleton_self _))

/-- A text is balanced if the fragments are that a token leaves of it. -/
theorem balanced_of_split? {token text : List Char} {parts : List (List Char)}
    (isToken : standard.IsToken token) (split : standard.split? token text = some parts)
    (all : ∀ part ∈ parts, standard.Balanced part) : standard.Balanced text := by
  rw [← intercalate_of_split? isToken split]
  exact Balanced.intercalate (balanced_of_plain isToken.plain) all

/-- A text is balanced if the arguments are into which it falls. -/
theorem balanced_of_arguments {interior : List Char}
    (all : ∀ part ∈ standard.arguments interior, standard.Balanced part) :
    standard.Balanced interior := by
  rw [arguments] at all
  split at all
  · next empty =>
    exact Text.balanced_of_blank (Text.trim_eq_nil_iff.mp (List.isEmpty_iff.mp empty))
  · cases split : standard.split? [standard.separator] interior with
    | none =>
      rw [split, Option.getD_none] at all
      exact all interior (List.mem_singleton_self _)
    | some parts =>
      rw [split, Option.getD_some] at all
      exact balanced_of_split? isToken_separator split all

/-- Quotes around a text without quotes balance it. -/
theorem balanced_of_quotedText? {text inner : List Char}
    (quoted : standard.quotedText? text = some inner) : standard.Balanced text := by
  unfold quotedText? at quoted
  split at quoted
  · cases quoted
  · next c rest =>
    split at quoted
    · next ends =>
      obtain ⟨rfl, closes, hidden⟩ := ends
      rw [Bool.not_eq_true', ← Bool.not_eq_true, List.contains_iff_mem] at hidden
      have whole : standard.stringOpen :: rest =
          standard.stringOpen :: rest.dropLast ++ [standard.stringClose] := by
        rw [List.cons_append, List.dropLast_append_getLast? _ closes]
      rw [whole]
      exact balanced_quoted (fun _ => rfl) (fun _ => rfl) fun c member same => hidden (same ▸ member)
    · cases quoted

/-- Every literal is balanced. -/
theorem balanced_of_literal? {text : List Char} {value : Value}
    (written : standard.literal? text = some value) : standard.Balanced text := by
  rcases forms_of_literal? written with plain | ⟨all, _⟩ | ⟨inner, quoted⟩
  · exact balanced_of_plain fun c member =>
      isDelimiter_of_isPlainChar_or_isSign (.inl (plain c member))
  · exact balanced_of_plain fun c member => isDelimiter_of_isPlainChar_or_isSign (all c member)
  · exact balanced_of_quotedText? quoted

end Dialect

namespace Engine

namespace Ordinary

variable {engine : Engine} {base : Tag} {text : List Char} {tree : Tree}
  (ordinary : engine.Ordinary base)

include ordinary

/-- A text that an operator takes is balanced if its fragments are. -/
theorem balanced_of_fragments? {entry : OperatorEntry} {parts : List (List Char)}
    (registered : entry ∈ Library.operators base)
    (fragments : entry.fragments? engine.dialect text = some parts)
    (all : ∀ part ∈ parts, Dialect.standard.Balanced part) : Dialect.standard.Balanced text := by
  have isToken := entry.operator.kind.isToken
  have token := Dialect.balanced_of_plain isToken.plain
  rw [ordinary.dialect] at fragments
  cases unary : entry.operator.kind.isUnary with
  | false =>
    rw [OperatorEntry.fragments?_of_between registered unary] at fragments
    exact Dialect.balanced_of_split? isToken fragments all
  | true =>
    cases suffix : entry.operator.kind.isSuffix with
    | false =>
      obtain ⟨operand, rfl, rfl⟩ :=
        (OperatorEntry.fragments?_of_before registered unary suffix).mp fragments
      exact token.append (all operand (List.mem_singleton_self _))
    | true =>
      obtain ⟨operand, rfl, rfl⟩ :=
        (OperatorEntry.fragments?_of_behind registered unary suffix).mp fragments
      exact (all operand (List.mem_singleton_self _)).append token

/-- A text that is a call is balanced if its arguments are. -/
theorem balanced_of_call? {function : Function} {parts : List (List Char)}
    (called : engine.call? text = some (function, parts))
    (all : ∀ part ∈ parts, Dialect.standard.Balanced part) : Dialect.standard.Balanced text := by
  obtain ⟨⟨name, interior⟩, split, called⟩ := Option.bind_eq_some_iff.mp called
  obtain ⟨found, place, same⟩ := Option.bind_eq_some_iff.mp called
  obtain ⟨rfl, rfl⟩ := Prod.mk.inj (Option.some.inj same)
  rw [ordinary.dialect] at split all
  obtain ⟨inner, enclosed, same⟩ := Option.map_eq_some_iff.mp split
  obtain ⟨rfl, rfl⟩ := Prod.mk.inj same
  have plain := ordinary.functions.isDelimiter_of_find? place
  rw [← List.takeWhile_append_dropWhile (p := (· ≠ Dialect.standard.functionOpen)) (l := text),
    Dialect.eq_of_enclosed? enclosed]
  exact (Dialect.balanced_of_plain plain).append
    ((Dialect.balanced_of_arguments all).between (fun _ => rfl) fun _ => rfl)

/-- Whatever can be read is balanced. -/
theorem balanced_of_parse (read : engine.parse text = .ok tree) : Dialect.standard.Balanced text := by
  refine parse_induction (motive := fun text _ => Dialect.standard.Balanced text) ?_ text tree read
  intro text tree whole shorter
  have trimmed := Text.length_trim_le text
  refine Text.balanced_of_trim ?_
  have parts {fragments : List (List Char)} {operands : List Tree}
      (read : engine.ReadsAll fragments operands)
      (short : ∀ part ∈ fragments, part.length < (Text.trim text).length) :
      ∀ part ∈ fragments, Dialect.standard.Balanced part := by
    intro part member
    obtain ⟨operand, _, success⟩ := exists_operand_of_readsAll read member
    exact shorter part operand (Nat.lt_of_lt_of_le (short part member) trimmed) success
  cases makes_of_parse whole with
  | block enclosed read =>
    have inside := shorter _ _ (Nat.lt_of_lt_of_le (Dialect.length_of_enclosed? enclosed) trimmed) read
    rw [ordinary.dialect] at enclosed
    rw [Dialect.eq_of_enclosed? enclosed]
    exact inside.between (fun _ => rfl) fun _ => rfl
  | name named =>
    refine Dialect.balanced_of_plain fun c member => Bool.eq_false_iff.mpr fun delimiter => ?_
    exact ordinary.not_mem_of_named? named c member (Library.mem_marks_of_isDelimiter delimiter)
  | @operation before after entry operands entries _ takes =>
    obtain ⟨⟨fragments, split, read⟩, _⟩ := takes
    have registered := ordinary.mem_operators entries
    exact ordinary.balanced_of_fragments? registered split
      (parts read fun part => OperatorEntry.length_of_mem_fragments? split)
  | call called read =>
    exact ordinary.balanced_of_call? called (parts read fun part => length_of_call? called)
  | literal written =>
    rw [ordinary.dialect] at written
    exact Dialect.balanced_of_literal? written

/-- Whatever can be read shows no separator. -/
theorem undivided_of_parse (read : engine.parse text = .ok tree) :
    Dialect.standard.cut? [','] text = none := by
  refine Dialect.undivided_of_surface ?_
  have separator : ',' ∈ Library.marks := by decide
  refine parse_induction (motive := fun text _ => ',' ∉ Dialect.standard.surfaceChars text) ?_ text tree read
  intro text tree whole shorter
  have trimmed := Text.length_trim_le text
  rw [← Dialect.mem_surfaceChars_trim (fun c => Dialect.isDelimiter_of_isBlank)
    (Library.isBlank_of_mem separator)]
  intro member
  cases makes_of_parse whole with
  | block enclosed =>
    rw [(ordinary.scan_of_block enclosed).1, List.mem_singleton] at member
    exact absurd member (by decide)
  | name named =>
    exact ordinary.not_mem_of_named? named ',' (Dialect.mem_of_mem_surfaceFrom member) separator
  | @operation before after entry operands entries _ takes =>
    obtain ⟨⟨fragments, split, read⟩, _⟩ := takes
    have registered := ordinary.mem_operators entries
    rcases (OperatorEntry.mem_surfaceChars_iff ordinary registered split read).mp member with
      token | ⟨part, inside, shown⟩
    · exact absurd (Library.mem_tokenChars ',' token) (by decide)
    · obtain ⟨operand, _, success⟩ := exists_operand_of_readsAll read inside
      have short := OperatorEntry.length_of_mem_fragments? split inside
      exact shorter part operand (Nat.lt_of_lt_of_le short trimmed) success shown
  | call called =>
    exact absurd ((ordinary.scan_of_call called).1 ',' member separator) (by decide)
  | literal written =>
    rw [ordinary.dialect] at written
    rcases (Dialect.scan_of_literal? written).2 ',' member with plain | quote | ⟨sign, _⟩
    · exact absurd plain (by decide)
    · exact absurd quote (by decide)
    · exact absurd sign (by decide)

variable (nameless : engine.named? [] = none)

include nameless

/-- No expression is written without any characters. -/
theorem parse_nil (tree : Tree) : engine.parse [] ≠ .ok tree := by
  intro read
  cases makes_of_parse read with
  | block enclosed => cases enclosed
  | name named => cases nameless.symm.trans named
  | @operation before after entry operands entries _ takes =>
    have registered := ordinary.mem_operators entries
    obtain ⟨c, member⟩ := List.exists_mem_of_ne_nil _ entry.operator.kind.isToken.spelled
    exact absurd (OperatorEntry.mem_surfaceChars_of_takes ordinary registered takes c member)
      List.not_mem_nil
  | call called => cases called
  | literal written =>
    rw [ordinary.dialect] at written
    have nothing : Dialect.standard.literal? (Text.trim []) = none := by decide +kernel
    cases nothing.symm.trans written

/-- Whatever can be read is a whole. -/
theorem whole_of_parse (read : engine.parse text = .ok tree) : Text.Whole text where
  balanced := ordinary.balanced_of_parse read
  spelled := by
    intro empty
    rw [← parse_trim, empty] at read
    exact ordinary.parse_nil nameless tree read
  undivided := ordinary.undivided_of_parse read

end Ordinary

end Engine

end Reckoner
