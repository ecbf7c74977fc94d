import Reckoner.Proofs.Grammar.Whole

/-! # Solid texts

A solid text is balanced, begins and ends with visible characters, and has none of the characters at its
surface by which texts are cut. Words, quoted texts, blocks and calls are solid, and wherever a solid
text stands, no token is found in it.
-/

namespace Reckoner

namespace Library

/-- The characters by which texts are cut: those of tokens, and the separator. -/
def cutters : List Char := ',' :: tokenChars

/-- None of the characters by which texts are cut is a delimiter. -/
theorem isDelimiter_of_mem_cutters {c : Char} (cutter : c ∈ cutters) :
    Dialect.standard.isDelimiter c = false := by
  revert c
  decide

/-- Every character of a token cuts texts. -/
theorem mem_cutters {operator : OperatorKind} : ∀ c ∈ operator.token, c ∈ cutters := fun c member =>
  List.mem_cons_of_mem _ (mem_tokenChars c member)

theorem not_isWordChar_of_mem_cutters {c : Char} (cutter : c ∈ cutters) :
    Text.isWordChar c = false := by
  revert c
  decide

end Library

namespace Text

open Dialect (standard)

/-- The text is balanced and visible at its ends and has nothing to be cut by at its surface. -/
structure Solid (text : List Char) : Prop where
  balanced : standard.Balanced text
  tight : Tight text
  silent : ∀ c ∈ standard.surfaceChars text, c ∉ Library.cutters

theorem isDelimiter_of_isWordChar {c : Char} (word : isWordChar c = true) :
    standard.isDelimiter c = false :=
  Dialect.isDelimiter_of_isPlainChar_or_isSign (.inl (isPlainChar_of_isWordChar word))

/-- Words are solid. -/
theorem solid_of_word {text : List Char} (spelled : text ≠ []) (word : ∀ c ∈ text, isWordChar c = true) :
    Solid text where
  balanced := Dialect.balanced_of_plain fun c member => isDelimiter_of_isWordChar (word c member)
  tight := tight_of_visible spelled fun c member => isBlank_of_isWordChar (word c member)
  silent := fun c member cutter => absurd (word c (Dialect.mem_of_mem_surfaceFrom member))
    (Bool.eq_false_iff.mp (Library.not_isWordChar_of_mem_cutters cutter))

theorem tight_between {opening closing : Char} (visible : isBlank opening = false)
    (visibleToo : isBlank closing = false) (front inner : List Char)
    (start : front = [] ∨ Tight front) : Tight (front ++ opening :: inner ++ [closing]) := by
  refine ⟨?_, ⟨_, closing, rfl, visibleToo⟩⟩
  rcases start with rfl | tight
  · exact ⟨opening, _, rfl, visible⟩
  · obtain ⟨c, rest, rfl, visible⟩ := tight.first
    exact ⟨c, _, rfl, visible⟩

theorem opens_block (depth : Int) : Nesting.after standard ⟨depth, false⟩ '(' = ⟨depth + 1, false⟩ := rfl

theorem closes_block (depth : Int) : Nesting.after standard ⟨depth, false⟩ ')' = ⟨depth - 1, false⟩ := rfl

/-- A balanced text between parentheses, with a word in front of it or not, is solid. -/
theorem solid_of_balanced {name inner : List Char} (word : ∀ c ∈ name, isWordChar c = true)
    (balanced : standard.Balanced inner) : Solid (name ++ '(' :: inner ++ [')']) := by
  have plain : ∀ c ∈ name, standard.isDelimiter c = false := fun c member =>
    isDelimiter_of_isWordChar (word c member)
  have surface := (Dialect.scan_of_enclosed? rfl (balanced.enclosed? opens_block closes_block)).1
  refine ⟨?_, ?_, ?_⟩
  · rw [List.append_assoc]
    exact (Dialect.balanced_of_plain plain).append (balanced.between opens_block closes_block)
  · refine tight_between (by decide) (by decide) name inner ?_
    by_cases empty : name = []
    · exact .inl empty
    · exact .inr (tight_of_visible empty fun c member => isBlank_of_isWordChar (word c member))
  · rw [List.append_assoc, Dialect.surfaceChars, Dialect.surfaceFrom_append, Dialect.scan_of_plain plain,
      Dialect.surfaceFrom_of_plain plain, ← Dialect.surfaceChars, surface]
    refine List.forall_mem_append.mpr ⟨fun c member cutter => ?_, by decide⟩
    exact absurd (word c member) (Bool.eq_false_iff.mp (Library.not_isWordChar_of_mem_cutters cutter))

/-- What stands between quotes is the text that they quote. -/
theorem quotedText?_eq_some {inner : List Char} (hidden : '"' ∉ inner) :
    standard.quotedText? ('"' :: inner ++ ['"']) = some inner := by
  rw [List.cons_append, Dialect.quotedText?, if_pos, List.dropLast_concat]
  refine ⟨rfl, List.getLast?_concat, ?_⟩
  rw [List.dropLast_concat, Bool.not_eq_true', ← Bool.not_eq_true, List.contains_iff_mem]
  exact hidden

/-- A text between quotes is solid. -/
theorem solid_of_quoted {inner : List Char} (hidden : '"' ∉ inner) :
    Solid ('"' :: inner ++ ['"']) where
  balanced := Dialect.balanced_quoted (fun _ => rfl) (fun _ => rfl) fun c member same =>
    hidden ((show c = '"' from same) ▸ member)
  tight := tight_between (by decide) (by decide) [] inner (.inl rfl)
  silent := by
    rw [(Dialect.scan_of_quotedText? (quotedText?_eq_some hidden)).1]
    decide

namespace Solid

variable {text : List Char} (solid : Solid text)

include solid

/-- No token made of cutting characters is found in a solid text. -/
theorem cut?_eq_none {token : List Char} (isToken : standard.IsToken token)
    (cutting : ∀ c ∈ token, c ∈ Library.cutters) : standard.cut? token text = none := by
  refine (Dialect.cut?_eq_none_iff isToken).mpr fun front back stands => ?_
  obtain ⟨c, member⟩ := List.exists_mem_of_ne_nil _ isToken.spelled
  exact solid.silent c (stands.mem_surfaceChars isToken member) (cutting c member)

/-- A solid text does not begin with a token. -/
theorem head?_ne {c : Char} (cutter : c ∈ Library.cutters) : text.head? ≠ some c := by
  intro first
  obtain ⟨rest, rfl⟩ := List.head?_eq_some_iff.mp first
  refine solid.silent c ?_ cutter
  rw [Dialect.surfaceChars, Dialect.surfaceFrom, if_pos rfl]
  exact List.mem_cons_self ..

/-- A solid text does not end with a token. -/
theorem getLast?_ne {c : Char} (cutter : c ∈ Library.cutters) : text.getLast? ≠ some c := by
  intro last
  obtain ⟨front, rfl⟩ := List.getLast?_eq_some_iff.mp last
  have plain := Library.isDelimiter_of_mem_cutters cutter
  have ends := solid.balanced.scan 0
  rw [Dialect.scan_append, Dialect.scan_cons, Dialect.after_of_not_isDelimiter plain] at ends
  refine solid.silent c ?_ cutter
  rw [Dialect.surfaceChars, Dialect.surfaceFrom_append, Nesting.surface]
  refine List.mem_append_right _ ?_
  rw [show standard.scan ⟨0, false⟩ front = Nesting.surface from ends, Dialect.surfaceFrom, if_pos rfl]
  exact List.mem_cons_self ..

end Solid

end Text

end Reckoner
