import Reckoner.Engine.Basic
import Reckoner.Source.Nesting

/-! # Fragments

A text falls apart at every occurrence of a token that stands outside of blocks, calls and quotes.
What an operator or a function leaves of a text are its fragments, and each of them is shorter than
the text, so that reading expressions comes to an end.
-/

namespace Reckoner

namespace Dialect

/-- The texts in front of and behind the first occurrence of a token at the surface. An empty token
occurs nowhere. -/
def cutFrom? (dialect : Dialect) (token : List Char) (nesting : Nesting) :
    List Char → Option (List Char × List Char)
  | [] => none
  | c :: rest =>
    match if nesting = Nesting.surface ∧ c ≠ dialect.stringOpen ∧ token ≠ [] then
        Text.afterSpelling? token (c :: rest) else none with
    | some back => some ([], back)
    | none => (cutFrom? dialect token (nesting.after dialect c) rest).map fun (front, back) =>
      (c :: front, back)

/-- The texts in front of and behind the first occurrence of a token. -/
def cut? (dialect : Dialect) (token text : List Char) : Option (List Char × List Char) :=
  dialect.cutFrom? token Nesting.surface text

/-- A cut takes the token away and keeps all else. -/
theorem length_of_cutFrom? {dialect : Dialect} {token text front back : List Char}
    {nesting : Nesting} (found : dialect.cutFrom? token nesting text = some (front, back)) :
    front.length + token.length + back.length = text.length ∧ 0 < token.length := by
  induction text generalizing nesting front with
  | nil => exact absurd found nofun
  | cons c rest ih =>
    rw [cutFrom?] at found
    split at found
    · rename_i behind here
      cases found
      split at here
      · rename_i place
        have lengths := Text.length_of_afterSpelling? here
        refine ⟨?_, List.length_pos_iff.mpr place.2.2⟩
        simp only [List.length_nil]
        omega
      · exact absurd here nofun
    · obtain ⟨⟨front, back⟩, later, same⟩ := Option.map_eq_some_iff.mp found
      cases same
      have lengths := ih later
      simp only [List.length_cons]
      omega

def pieces (dialect : Dialect) (token text : List Char) : List (List Char) :=
  match _ : dialect.cut? token text with
  | none => [text]
  | some (front, back) => front :: pieces dialect token back
termination_by text.length
decreasing_by
  rename_i found
  have lengths := length_of_cutFrom? found
  omega

/-- The texts between all occurrences of a token that occurs. -/
def split? (dialect : Dialect) (token text : List Char) : Option (List (List Char)) :=
  (dialect.cut? token text).map fun (front, back) => front :: dialect.pieces token back

theorem length_of_mem_pieces {dialect : Dialect} {token text part : List Char}
    (member : part ∈ dialect.pieces token text) : part.length ≤ text.length := by
  fun_induction pieces dialect token text with
  | case1 text notFound =>
    rw [List.mem_singleton] at member
    exact Nat.le_of_eq (congrArg List.length member)
  | case2 text front back found ih =>
    have lengths := length_of_cutFrom? found
    cases List.mem_cons.mp member with
    | inl first => subst first; omega
    | inr later => have shorter := ih later; omega

/-- Fragments are shorter than the text that is split. -/
theorem length_of_mem_split? {dialect : Dialect} {token text part : List Char}
    {parts : List (List Char)} (split : dialect.split? token text = some parts)
    (member : part ∈ parts) : part.length < text.length := by
  obtain ⟨⟨front, back⟩, found, rfl⟩ := Option.map_eq_some_iff.mp split
  have lengths := length_of_cutFrom? found
  cases List.mem_cons.mp member with
  | inl first => subst first; omega
  | inr later => have shorter := length_of_mem_pieces later; omega

/-- The name and the text between the delimiters of a call that makes up the whole text. -/
def call? (dialect : Dialect) (text : List Char) : Option (List Char × List Char) :=
  (dialect.enclosed? dialect.functionOpen dialect.functionClose
    (text.dropWhile (· ≠ dialect.functionOpen))).map fun interior =>
      (text.takeWhile (· ≠ dialect.functionOpen), interior)

def arguments (dialect : Dialect) (interior : List Char) : List (List Char) :=
  if (Text.trim interior).isEmpty then []
  else (dialect.split? [dialect.separator] interior).getD [interior]

/-- The interior of a call is shorter than the call. -/
theorem length_of_call? {dialect : Dialect} {text name interior : List Char}
    (call : dialect.call? text = some (name, interior)) : interior.length < text.length := by
  obtain ⟨inner, enclosed, same⟩ := Option.map_eq_some_iff.mp call
  cases same
  have shorter := length_of_enclosed? enclosed
  have dropped := (List.dropWhile_sublist (l := text) (· ≠ dialect.functionOpen)).length_le
  omega

theorem length_of_mem_arguments {dialect : Dialect} {interior part : List Char}
    (member : part ∈ dialect.arguments interior) : part.length ≤ interior.length := by
  unfold arguments at member
  split at member
  · exact absurd member List.not_mem_nil
  · cases split : dialect.split? [dialect.separator] interior with
    | none =>
      rw [split, Option.getD_none, List.mem_singleton] at member
      exact Nat.le_of_eq (congrArg List.length member)
    | some parts =>
      rw [split, Option.getD_some] at member
      exact Nat.le_of_lt (length_of_mem_split? split member)

end Dialect

namespace OperatorEntry

/-- The token as it is looked for, with its ASCII letters in lower case. -/
def spelling (entry : OperatorEntry) : List Char := Text.asciiLower entry.token.toList

/-- The texts of the operands if the text is made with the entry's token: on both sides of it, in
front of it for a suffix, behind it for another operator with one operand. -/
def fragments? (dialect : Dialect) (entry : OperatorEntry) (text : List Char) :
    Option (List (List Char)) :=
  if entry.spelling = [] then none
  else if !entry.operator.kind.isUnary then dialect.split? entry.spelling text
  else if entry.operator.kind.isSuffix then
    (Text.beforeSpelling? entry.spelling text).map fun operand => [operand]
  else (Text.afterSpelling? entry.spelling text).map fun operand => [operand]

/-- Operands are read from texts shorter than that of the operation. -/
theorem length_of_mem_fragments? {dialect : Dialect} {entry : OperatorEntry}
    {text part : List Char} {parts : List (List Char)}
    (fragments : entry.fragments? dialect text = some parts) (member : part ∈ parts) :
    part.length < text.length := by
  unfold fragments? at fragments
  split at fragments
  · exact absurd fragments nofun
  · rename_i spelled
    have positive := List.length_pos_iff.mpr spelled
    split at fragments
    · exact Dialect.length_of_mem_split? fragments member
    · split at fragments
      · obtain ⟨operand, found, rfl⟩ := Option.map_eq_some_iff.mp fragments
        have lengths := Text.length_of_beforeSpelling? found
        cases List.mem_singleton.mp member
        omega
      · obtain ⟨operand, found, rfl⟩ := Option.map_eq_some_iff.mp fragments
        have lengths := Text.length_of_afterSpelling? found
        cases List.mem_singleton.mp member
        omega

end OperatorEntry

end Reckoner
