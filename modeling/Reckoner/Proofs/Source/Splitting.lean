import Mathlib.Logic.Relation
import Reckoner.Proofs.Source.Join
import Reckoner.Proofs.Text.AsciiCase

/-! # Splitting a text at a token

What a split finds, for every dialect and every token, whatever letters and delimiters the token has.
The text is scanned from the left. Where the token stands at the surface, in whatever case, the scan
steps over all of it; elsewhere it steps past one character and keeps track of the nesting. A quote
that opens a string is entered before any token is looked for. The split cuts the text at exactly the
places where the scan steps over the token, and none of its parts can be cut again.
-/

namespace Reckoner

namespace Text

/-- What follows a word is what is left behind some spelling of it. -/
theorem afterSpelling?_eq_some_iff_spelled {word text back : List Char} :
    afterSpelling? word text = some back ↔ ∃ front, text = front ++ back ∧ asciiLower front = word := by
  fun_induction afterSpelling? word text with
  | case1 text =>
    constructor
    · intro same
      obtain rfl := Option.some.inj same
      exact ⟨[], rfl, rfl⟩
    · rintro ⟨front, rfl, lower⟩
      rw [List.map_eq_nil_iff.mp lower]
      rfl
  | case2 word spelled =>
    simp only [reduceCtorEq, false_iff]
    rintro ⟨front, empty, lower⟩
    obtain ⟨rfl, rfl⟩ := List.append_eq_nil_iff.mp empty.symm
    exact spelled lower.symm
  | case3 d word text ih =>
    rw [ih]
    constructor
    · rintro ⟨front, rfl, rfl⟩
      exact ⟨_ :: front, rfl, rfl⟩
    · rintro ⟨front, same, lower⟩
      cases front with
      | nil => cases lower
      | cons e front =>
        obtain ⟨rfl, rfl⟩ := List.cons.inj same
        exact ⟨front, rfl, (List.cons.inj lower).2⟩
  | case4 c word d text other =>
    simp only [reduceCtorEq, false_iff]
    rintro ⟨front, same, lower⟩
    cases front with
    | nil => cases lower
    | cons e front =>
      obtain ⟨rfl, rfl⟩ := List.cons.inj same
      exact other (List.cons.inj lower).1

/-- A word that is met is met in a longer text too. -/
theorem afterSpelling?_append {word text back : List Char} (found : afterSpelling? word text = some back)
    (more : List Char) : afterSpelling? word (text ++ more) = some (back ++ more) := by
  obtain ⟨front, rfl, lower⟩ := afterSpelling?_eq_some_iff_spelled.mp found
  exact afterSpelling?_eq_some_iff_spelled.mpr ⟨front, List.append_assoc front back more, lower⟩

/-- Spellings are the same if they are equal in lower case. -/
theorem sameSpelling_iff {left right : List Char} :
    sameSpelling left right = true ↔ asciiLower left = asciiLower right := beq_iff_eq

end Text

namespace Dialect

/-- A place in a text that is being scanned: the characters behind it, where the next character stands,
and the characters ahead. -/
structure Place where
  behind : List Char
  nesting : Nesting
  ahead : List Char

def Place.start (text : List Char) : Place := ⟨[], Nesting.surface, text⟩

/-- The token begins at the place, outside of blocks, calls and quotes. It is spelled `word`, and `back`
is what follows it. The word does not begin with the quote that opens a string. -/
structure Marks (dialect : Dialect) (token : List Char) (place : Place) (word back : List Char) :
    Prop where
  same : place.ahead = word ++ back
  spelled : Text.sameSpelling word token = true
  surface : place.nesting = Nesting.surface
  unquoted : word.head? ≠ some dialect.stringOpen

/-- One step of the scan: over the token where it stands, and else past one character. -/
inductive Step (dialect : Dialect) (token : List Char) : Place → Place → Prop
  | across {place : Place} {word back : List Char} (marks : dialect.Marks token place word back) :
    Step dialect token place ⟨place.behind ++ word, Nesting.surface, back⟩
  | past {behind : List Char} {nesting : Nesting} {c : Char} {rest : List Char}
    (unmarked : ∀ word back, ¬ dialect.Marks token ⟨behind, nesting, c :: rest⟩ word back) :
    Step dialect token ⟨behind, nesting, c :: rest⟩ ⟨behind ++ [c], nesting.after dialect c, rest⟩

/-- The scan comes from one place to the other. -/
abbrev Leads (dialect : Dialect) (token : List Char) : Place → Place → Prop :=
  Relation.ReflTransGen (dialect.Step token)

/-- The scan of the text comes to the place. -/
def Reaches (dialect : Dialect) (token text : List Char) (place : Place) : Prop :=
  dialect.Leads token (Place.start text) place

/-- Words, each with the text that follows it, written one after another. -/
def glued (cuts : List (List Char × List Char)) : List Char :=
  cuts.flatMap fun cut => cut.1 ++ cut.2

theorem glued_cons (word part : List Char) (rest : List (List Char × List Char)) :
    glued ((word, part) :: rest) = word ++ part ++ glued rest := List.flatMap_cons

variable {dialect : Dialect} {token : List Char}

theorem not_marks_nil (spelled : token ≠ []) {behind word back : List Char} {nesting : Nesting} :
    ¬ dialect.Marks token ⟨behind, nesting, []⟩ word back := by
  rintro ⟨same, spelling, -, -⟩
  obtain ⟨rfl, -⟩ := List.append_eq_nil_iff.mp same.symm
  have empty := Text.sameSpelling_iff.mp spelling
  exact spelled (List.map_eq_nil_iff.mp empty.symm)

/-- A cut takes a word out of the text. -/
theorem exists_word_of_cutFrom? {text front back : List Char} {nesting : Nesting}
    (cut : dialect.cutFrom? token nesting text = some (front, back)) :
    ∃ word, text = front ++ word ++ back := by
  induction text generalizing nesting front with
  | nil => cases cut
  | cons c rest ih =>
    rw [cutFrom?] at cut
    split at cut
    · next behind here =>
      obtain ⟨rfl, rfl⟩ := Prod.mk.inj (Option.some.inj cut)
      split at here
      · obtain ⟨word, same, -⟩ := Text.afterSpelling?_eq_some_iff_spelled.mp here
        exact ⟨word, same⟩
      · cases here
    · obtain ⟨⟨later, after⟩, found, same⟩ := Option.map_eq_some_iff.mp cut
      obtain ⟨rfl, rfl⟩ : c :: later = front ∧ after = back := Prod.mk.inj same
      obtain ⟨word, rfl⟩ := ih found
      exact ⟨word, rfl⟩

/-- What lies in front of a cut is not cut itself. -/
theorem cutFrom?_front {text front back : List Char} {nesting : Nesting}
    (cut : dialect.cutFrom? token nesting text = some (front, back)) :
    dialect.cutFrom? token nesting front = none := by
  induction text generalizing nesting front with
  | nil => cases cut
  | cons c rest ih =>
    rw [cutFrom?] at cut
    split at cut
    · obtain ⟨rfl, rfl⟩ := Prod.mk.inj (Option.some.inj cut)
      rfl
    · next unmet =>
      obtain ⟨⟨later, after⟩, found, same⟩ := Option.map_eq_some_iff.mp cut
      obtain ⟨rfl, rfl⟩ : c :: later = front ∧ after = back := Prod.mk.inj same
      obtain ⟨word, rfl⟩ := exists_word_of_cutFrom? found
      rw [cutFrom?]
      split
      · next behind here =>
        -- the token would stand in the whole text wherever it stands in the part
        split at here
        · next place =>
          rw [if_pos place, List.append_assoc, ← List.cons_append,
            Text.afterSpelling?_append here] at unmet
          cases unmet
        · cases here
      · rw [ih found, Option.map_none]

theorem pieces_ne_nil (text : List Char) : dialect.pieces token text ≠ [] := by
  rw [pieces]
  split <;> exact List.cons_ne_nil _ _

/-- A text that is cut falls into what is in front of the cut and the pieces of the rest. -/
theorem pieces_of_cut? {text front back : List Char}
    (cut : dialect.cut? token text = some (front, back)) :
    dialect.pieces token text = front :: dialect.pieces token back := by
  rw [pieces]
  split
  · next uncut => cases uncut.symm.trans cut
  · next found =>
    obtain ⟨rfl, rfl⟩ := Prod.mk.inj (Option.some.inj (found.symm.trans cut))
    rfl

/-- A piece cannot be split again. -/
theorem split?_of_mem_pieces {text part : List Char} (member : part ∈ dialect.pieces token text) :
    dialect.split? token part = none := by
  rw [split?, Option.map_eq_none_iff]
  fun_induction pieces dialect token text with
  | case1 text uncut => exact List.mem_singleton.mp member ▸ uncut
  | case2 text front back cut ih =>
    rcases List.mem_cons.mp member with rfl | later
    · exact cutFrom?_front cut
    · exact ih later

/-- A text that is split falls apart into its pieces, and there are several of them. -/
theorem pieces_of_split? {text : List Char} {parts : List (List Char)}
    (split : dialect.split? token text = some parts) :
    ∃ first rest, parts = first :: rest ∧ rest ≠ [] ∧ dialect.pieces token text = parts := by
  obtain ⟨⟨front, back⟩, cut, rfl⟩ := Option.map_eq_some_iff.mp split
  exact ⟨front, dialect.pieces token back, rfl, pieces_ne_nil back, pieces_of_cut? cut⟩

section Scan

variable (spelled : token ≠ []) (lowered : Text.asciiLower token = token)

include spelled lowered

/-- The token begins at a place exactly if the scan looks for it there and finds it. -/
theorem exists_marks_iff {behind : List Char} {nesting : Nesting} {c : Char} {rest back : List Char} :
    (∃ word, dialect.Marks token ⟨behind, nesting, c :: rest⟩ word back) ↔
      (nesting = Nesting.surface ∧ c ≠ dialect.stringOpen ∧ token ≠ []) ∧
        Text.afterSpelling? token (c :: rest) = some back := by
  rw [Text.afterSpelling?_eq_some_iff_spelled]
  constructor
  · rintro ⟨word, same, spelling, surface, unquoted⟩
    have lower := (Text.sameSpelling_iff.mp spelling).trans lowered
    refine ⟨⟨surface, ?_, spelled⟩, word, same, lower⟩
    intro opens
    cases word with
    | nil => exact spelled lower.symm
    | cons d word => exact unquoted (congrArg some ((List.cons.inj same).1.symm.trans opens))
  · rintro ⟨⟨surface, visible, -⟩, word, same, lower⟩
    refine ⟨word, same, Text.sameSpelling_iff.mpr (lower.trans lowered.symm), surface, ?_⟩
    cases word with
    | nil => exact nofun
    | cons d word =>
      intro opens
      exact visible ((List.cons.inj same).1.trans (Option.some.inj opens))

/-- Where the token stands the text is cut, and elsewhere the cut is that of the rest. -/
theorem cutFrom?_cons_cases (behind : List Char) (nesting : Nesting) (c : Char) (rest : List Char) :
    (∃ word back, dialect.Marks token ⟨behind, nesting, c :: rest⟩ word back ∧
        dialect.cutFrom? token nesting (c :: rest) = some ([], back)) ∨
      (∀ word back, ¬ dialect.Marks token ⟨behind, nesting, c :: rest⟩ word back) ∧
        dialect.cutFrom? token nesting (c :: rest) =
          (dialect.cutFrom? token (nesting.after dialect c) rest).map fun cut =>
            (c :: cut.1, cut.2) := by
  have marks {back : List Char} :=
    @exists_marks_iff dialect token spelled lowered behind nesting c rest back
  by_cases place : nesting = Nesting.surface ∧ c ≠ dialect.stringOpen ∧ token ≠ []
  · cases found : Text.afterSpelling? token (c :: rest) with
    | some back =>
      obtain ⟨word, here⟩ := marks.mpr ⟨place, found⟩
      exact .inl ⟨word, back, here, by rw [cutFrom?, if_pos place, found]⟩
    | none =>
      refine .inr ⟨fun word back here => ?_, by rw [cutFrom?, if_pos place, found]⟩
      cases found.symm.trans (marks.mp ⟨word, here⟩).2
  · refine .inr ⟨fun word back here => ?_, by rw [cutFrom?, if_neg place]⟩
    exact place (marks.mp ⟨word, here⟩).1

/-- A text that is not cut is scanned to its end without meeting the token. -/
theorem not_marks_of_cutFrom? {behind text : List Char} {nesting : Nesting}
    (uncut : dialect.cutFrom? token nesting text = none) {place : Place}
    (leads : dialect.Leads token ⟨behind, nesting, text⟩ place) (word back : List Char) :
    ¬ dialect.Marks token place word back := by
  induction text generalizing behind nesting with
  | nil =>
    cases leads.cases_head with
    | inl same => exact same ▸ not_marks_nil spelled
    | inr onward =>
      obtain ⟨next, step, -⟩ := onward
      cases step with
      | across marks => exact absurd marks (not_marks_nil spelled)
  | cons c rest ih =>
    rcases cutFrom?_cons_cases spelled lowered behind nesting c rest with
      ⟨other, after, marks, cut⟩ | ⟨unmarked, further⟩
    · cases uncut.symm.trans cut
    · rw [further, Option.map_eq_none_iff] at uncut
      cases leads.cases_head with
      | inl same => exact same ▸ unmarked word back
      | inr onward =>
        obtain ⟨next, step, later⟩ := onward
        cases step with
        | across marks => exact absurd marks (unmarked _ _)
        | past _ => exact ih uncut later

/-- A cut is made where the scan meets the token. -/
theorem marks_of_cutFrom? (behind : List Char) {text front back : List Char} {nesting : Nesting}
    (cut : dialect.cutFrom? token nesting text = some (front, back)) :
    ∃ word, text = front ++ word ++ back ∧
      dialect.Leads token ⟨behind, nesting, text⟩ ⟨behind ++ front, Nesting.surface, word ++ back⟩ ∧
      dialect.Marks token ⟨behind ++ front, Nesting.surface, word ++ back⟩ word back := by
  induction text generalizing behind nesting front with
  | nil => cases cut
  | cons c rest ih =>
    rcases cutFrom?_cons_cases spelled lowered behind nesting c rest with
      ⟨word, after, marks, here⟩ | ⟨unmarked, further⟩
    · obtain ⟨rfl, rfl⟩ := Prod.mk.inj (Option.some.inj (cut.symm.trans here))
      obtain ⟨same, spelling, surface, unquoted⟩ := marks
      obtain rfl : nesting = Nesting.surface := surface
      have same : c :: rest = word ++ back := same
      rw [List.append_nil, same]
      exact ⟨word, rfl, .refl, ⟨rfl, spelling, rfl, unquoted⟩⟩
    · rw [further, Option.map_eq_some_iff] at cut
      obtain ⟨⟨later, after⟩, found, same⟩ := cut
      obtain ⟨rfl, rfl⟩ : c :: later = front ∧ after = back := Prod.mk.inj same
      obtain ⟨word, rfl, leads, marks⟩ := ih (behind ++ [c]) found
      rw [← List.append_cons] at leads marks
      exact ⟨word, rfl, .head (.past unmarked) leads, marks⟩

/-- The pieces of a text with the words that cut it between them are the text, and the scan steps
over each of the words. -/
theorem exists_cuts_of_pieces (behind text : List Char) : ∃ first cuts,
    dialect.pieces token text = first :: cuts.map Prod.snd ∧ text = first ++ glued cuts ∧
    (∀ before word part after, cuts = before ++ (word, part) :: after →
      dialect.Leads token ⟨behind, Nesting.surface, text⟩
        ⟨behind ++ first ++ glued before, Nesting.surface, word ++ (part ++ glued after)⟩ ∧
      dialect.Marks token
        ⟨behind ++ first ++ glued before, Nesting.surface, word ++ (part ++ glued after)⟩ word
        (part ++ glued after)) := by
  fun_induction pieces dialect token text generalizing behind with
  | case1 text uncut =>
    refine ⟨text, [], rfl, (List.append_nil text).symm, ?_⟩
    intro before word part after same
    cases List.append_ne_nil_of_right_ne_nil before (List.cons_ne_nil _ _) same.symm
  | case2 text front back cut ih =>
    obtain ⟨word, whole, leads, marks⟩ := marks_of_cutFrom? spelled lowered behind cut
    obtain ⟨first, cuts, parts, rfl, places⟩ := ih (behind ++ front ++ word)
    refine ⟨front, (word, first) :: cuts, ?_, ?_, ?_⟩
    · rw [parts, List.map_cons]
    · rw [whole, glued_cons, List.append_assoc, List.append_assoc]
    · intro before wordToo part after same
      cases before with
      | nil =>
        obtain ⟨here, rfl⟩ := List.cons.inj same
        obtain ⟨rfl, rfl⟩ := Prod.mk.inj here
        have empty : glued [] = [] := rfl
        rw [empty, List.append_nil]
        exact ⟨leads, marks⟩
      | cons head before =>
        obtain ⟨rfl, rfl⟩ := List.cons.inj same
        obtain ⟨onward, marksToo⟩ := places before wordToo part after rfl
        have place : behind ++ front ++ glued ((word, first) :: before) =
            behind ++ front ++ word ++ first ++ glued before := by
          simp only [glued_cons, List.append_assoc]
        rw [place]
        exact ⟨(leads.tail (.across marks)).trans onward, marksToo⟩

end Scan

/-- A scan that steps over no delimiter knows where each place stands from what lies behind it. -/
theorem nesting_of_reaches
    (plain : ∀ c, dialect.isDelimiter c = true → c.toLower ∉ Text.asciiLower token) {text : List Char}
    {place : Place} (reaches : dialect.Reaches token text place) :
    place.nesting = dialect.scan Nesting.surface place.behind := by
  unfold Reaches at reaches
  induction reaches with
  | refl => rfl
  | tail _ step ih =>
    cases step with
    | @across place word back marks =>
      rw [scan_append, ← ih, marks.surface, scan_of_plain]
      intro c member
      by_contra delimiter
      rw [Bool.not_eq_false] at delimiter
      have lower := Text.sameSpelling_iff.mp marks.spelled
      exact plain c delimiter (lower ▸ List.mem_map_of_mem member)
    | past _ =>
      rw [scan_append, ← ih]
      rfl

/-- A text is split exactly if its scan meets the token. It then falls apart, without loss, into parts
and the words between them. The scan meets the token at each of these words and in none of the parts.
Where no delimiter, in whatever case, is a character of the token, the nesting that the scan tells is
that of the characters behind the place. -/
theorem split?_spec (dialect : Dialect) (token text : List Char) (spelled : token ≠ [])
    (lowered : Text.asciiLower token = token) :
    (dialect.split? token text = none ↔
      ∀ place word back, dialect.Reaches token text place → ¬ dialect.Marks token place word back) ∧
    (∀ parts, dialect.split? token text = some parts → ∃ first cuts, cuts ≠ [] ∧
      parts = first :: cuts.map Prod.snd ∧ text = first ++ glued cuts ∧
      (∀ before word part after, cuts = before ++ (word, part) :: after →
        dialect.Reaches token text
          ⟨first ++ glued before, Nesting.surface, word ++ (part ++ glued after)⟩ ∧
        dialect.Marks token ⟨first ++ glued before, Nesting.surface, word ++ (part ++ glued after)⟩
          word (part ++ glued after)) ∧
      ∀ part ∈ parts, dialect.split? token part = none) ∧
    ((∀ c, dialect.isDelimiter c = true → c.toLower ∉ token) → ∀ place,
      dialect.Reaches token text place →
      place.nesting = dialect.scan Nesting.surface place.behind) := by
  refine ⟨⟨fun unsplit => ?_, fun unmarked => ?_⟩, fun parts split => ?_, fun plain place => ?_⟩
  · rw [split?, Option.map_eq_none_iff] at unsplit
    intro place word back reaches
    exact not_marks_of_cutFrom? spelled lowered unsplit reaches word back
  · rw [split?, Option.map_eq_none_iff]
    cases cut : dialect.cut? token text with
    | none => rfl
    | some ends =>
      obtain ⟨front, back⟩ := ends
      obtain ⟨word, -, leads, marks⟩ := marks_of_cutFrom? spelled lowered [] cut
      exact absurd marks (unmarked _ word back leads)
  · obtain ⟨front, rest, rfl, several, pieces⟩ := pieces_of_split? split
    obtain ⟨first, cuts, same, whole, places⟩ :=
      @exists_cuts_of_pieces dialect token spelled lowered [] text
    rw [pieces] at same
    refine ⟨first, cuts, ?_, same, whole, places, fun part member => ?_⟩
    · rintro rfl
      exact several (List.cons.inj same).2
    · exact split?_of_mem_pieces (pieces ▸ member)
  · exact nesting_of_reaches (lowered.symm ▸ plain)

/-- A word that is looked for between blanks is found in capitals, and not in parentheses. -/
theorem split?_spec_of_word : ∃ first cuts,
    [['a'], "(b and c)".toList] = first :: cuts.map Prod.snd ∧
      "a AND (b and c)".toList = first ++ glued cuts := by
  obtain ⟨-, found, -⟩ := split?_spec Dialect.standard " and ".toList "a AND (b and c)".toList
    (by decide) (by decide)
  obtain ⟨first, cuts, -, parts, whole, -⟩ := found [['a'], "(b and c)".toList] (by decide +kernel)
  exact ⟨first, cuts, parts, whole⟩

/-- The quote that opens a string never cuts a text, though it stands at the surface there. -/
theorem quote_uncut :
    ['1', '"', '2'] = ['1'] ++ ['"'] ++ ['2'] ∧
      Dialect.standard.scan Nesting.surface ['1'] = Nesting.surface ∧
      Dialect.standard.split? ['"'] ['1', '"', '2'] = none :=
  ⟨rfl, by decide, by decide +kernel⟩

end Dialect

end Reckoner
