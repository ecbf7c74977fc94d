import Reckoner.Proofs.Source.Balance
import Reckoner.Proofs.Source.Splitting

/-! # Parts of a text

Whatever the reader goes on to read is a contiguous part of the text it has been given: what trimming
leaves, what stands between delimiters, and the fragments that an operator or a call leaves.
-/

namespace Reckoner

namespace Text

/-- Trimming leaves a part of the text. -/
theorem trim_isInfix_self (text : List Char) : trim text <:+: text := by
  obtain ⟨front, back, whole, -, -⟩ := exists_trim text
  exact ⟨front, back, whole.symm⟩

theorem isInfix_of_afterSpelling? {word text rest : List Char}
    (found : afterSpelling? word text = some rest) : rest <:+: text := by
  obtain ⟨front, rfl, -⟩ := afterSpelling?_eq_some_iff_spelled.mp found
  exact (List.suffix_append front rest).isInfix

theorem isInfix_of_beforeSpelling? {word text rest : List Char}
    (found : beforeSpelling? word text = some rest) : rest <:+: text := by
  obtain ⟨back, behind, rfl⟩ := Option.map_eq_some_iff.mp found
  have behind := List.reverse_infix.mpr (isInfix_of_afterSpelling? behind)
  rwa [List.reverse_reverse] at behind

end Text

namespace Dialect

variable {dialect : Dialect} {token text part : List Char}

/-- What delimiters enclose is a part of the text. -/
theorem isInfix_of_enclosed? {opening closing : Char} {inner : List Char}
    (enclosed : dialect.enclosed? opening closing text = some inner) : inner <:+: text := by
  rw [eq_of_enclosed? enclosed]
  exact ⟨[opening], [closing], rfl⟩

/-- The pieces of a text are parts of it. -/
theorem isInfix_of_mem_pieces (member : part ∈ dialect.pieces token text) : part <:+: text := by
  fun_induction pieces dialect token text with
  | case1 text uncut =>
    obtain rfl := List.mem_singleton.mp member
    exact List.infix_refl part
  | case2 text front back cut ih =>
    obtain ⟨word, rfl⟩ := exists_word_of_cutFrom? cut
    rcases List.mem_cons.mp member with rfl | later
    · rw [List.append_assoc]
      exact (List.prefix_append part (word ++ back)).isInfix
    · exact (ih later).trans (List.suffix_append (front ++ word) back).isInfix

/-- The fragments of a split are parts of the text. -/
theorem isInfix_of_mem_split? {parts : List (List Char)} (split : dialect.split? token text = some parts)
    (member : part ∈ parts) : part <:+: text := by
  obtain ⟨-, -, -, -, pieces⟩ := pieces_of_split? split
  exact isInfix_of_mem_pieces (pieces ▸ member)

/-- The interior of a call is a part of the text. -/
theorem isInfix_of_call? {name interior : List Char} (call : dialect.call? text = some (name, interior)) :
    interior <:+: text := by
  obtain ⟨inner, enclosed, same⟩ := Option.map_eq_some_iff.mp call
  obtain ⟨-, rfl⟩ := Prod.mk.inj same
  exact (isInfix_of_enclosed? enclosed).trans (List.dropWhile_suffix _).isInfix

/-- The arguments are parts of the interior of a call. -/
theorem isInfix_of_mem_arguments {interior : List Char} (member : part ∈ dialect.arguments interior) :
    part <:+: interior := by
  unfold arguments at member
  split at member
  · cases member
  · cases split : dialect.split? [dialect.separator] interior with
    | none =>
      rw [split, Option.getD_none, List.mem_singleton] at member
      subst member
      exact List.infix_refl part
    | some parts =>
      rw [split, Option.getD_some] at member
      exact isInfix_of_mem_split? split member

end Dialect

/-- The operands of an entry are read from parts of the text. -/
theorem OperatorEntry.isInfix_of_mem_fragments? {dialect : Dialect} {entry : OperatorEntry}
    {text part : List Char} {parts : List (List Char)}
    (fragments : entry.fragments? dialect text = some parts) (member : part ∈ parts) :
    part <:+: text := by
  unfold fragments? at fragments
  split at fragments
  · cases fragments
  · split at fragments
    · exact Dialect.isInfix_of_mem_split? fragments member
    · split at fragments
      · obtain ⟨operand, found, rfl⟩ := Option.map_eq_some_iff.mp fragments
        rw [List.mem_singleton.mp member]
        exact Text.isInfix_of_beforeSpelling? found
      · obtain ⟨operand, found, rfl⟩ := Option.map_eq_some_iff.mp fragments
        rw [List.mem_singleton.mp member]
        exact Text.isInfix_of_afterSpelling? found

end Reckoner
