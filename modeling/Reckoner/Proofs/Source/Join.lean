import Reckoner.Proofs.Source.Token
import Mathlib.Data.List.Forall2

/-! # Tokens in texts put together

A token stands in a text that is put together at a character of no token exactly where it stands in
one of the two sides. So texts without a token, put together with the token and blanks between them,
fall apart at the token into these texts again, and a token that is in none of them and not in the one
between them either is nowhere.
-/

namespace Reckoner

namespace Dialect

variable {dialect : Dialect} {token : List Char} (isToken : dialect.IsToken token)

include isToken

/-- A token that stands on neither side of a character that it does not have stands nowhere. -/
theorem cut?_of_joint {c : Char} (other : c ∉ token) (plain : dialect.isDelimiter c = false)
    (left : List Char) {right : List Char} (balanced : dialect.scan Nesting.surface left = Nesting.surface)
    (uncut : dialect.cut? token left = none) (uncutToo : dialect.cut? token right = none) :
    dialect.cut? token (left ++ c :: right) = none := by
  rw [cut?_eq_none_iff isToken] at uncut uncutToo ⊢
  rintro front back ⟨same, surface⟩
  rcases List.append_eq_append_iff.mp same with ⟨beyond, ends, rest⟩ | ⟨beyond, ends, rest⟩
  · -- The token ends behind the left side; it cannot reach over the character.
    cases beyond with
    | nil => exact uncut front [] ⟨by rw [List.append_nil, ends, List.append_nil], surface⟩
    | cons d beyond =>
      obtain ⟨rfl, rfl⟩ := List.cons.inj rest
      rcases List.append_eq_append_iff.mp ends with ⟨reach, _, spelled⟩ | ⟨reach, start, spelled⟩
      · exact other (spelled ▸ List.mem_append_right _ (List.mem_cons_self ..))
      · cases reach with
        | nil =>
          rw [List.nil_append] at spelled
          exact other (spelled ▸ List.mem_cons_self ..)
        | cons d reach =>
          obtain ⟨rfl, tail⟩ := List.cons.inj spelled
          subst start
          rw [scan_append, balanced, scan_cons, after_of_not_isDelimiter plain] at surface
          exact uncutToo reach back ⟨congrArg (· ++ back) tail, surface⟩
  · exact uncut front beyond ⟨ends, surface⟩

/-- A token cuts a text where it is put, unless it stands in what precedes it or reaches over its
end. -/
theorem cut?_of_seam (front : List Char) (balanced : dialect.scan Nesting.surface front = Nesting.surface)
    (seam : dialect.cut? token (front ++ token.dropLast) = none) (back : List Char) :
    dialect.cut? token (front ++ token ++ back) = some (front, back) := by
  refine (cut?_eq_some_iff isToken).mpr ⟨⟨rfl, balanced⟩, ?_⟩
  rintro other behind ⟨same, surface⟩
  by_contra shorter
  have positive := List.length_pos_iff.mpr isToken.spelled
  have spelling := List.dropLast_concat_getLast isToken.spelled
  have first : other ++ token <+: front ++ token ++ back := ⟨behind, same.symm⟩
  have whole : front ++ token.dropLast <+: front ++ token ++ back := by
    refine ⟨token.getLast isToken.spelled :: back, ?_⟩
    conv => rhs; rw [← spelling]
    simp only [List.append_assoc, List.singleton_append]
  have lengths : (other ++ token).length ≤ (front ++ token.dropLast).length := by
    rw [List.length_append, List.length_append, List.length_dropLast]
    omega
  obtain ⟨rest, inside⟩ := List.prefix_of_prefix_length_le first whole lengths
  exact (cut?_eq_none_iff isToken).mp seam other rest ⟨inside.symm, surface⟩

/-- Texts that are put together with a token that none of them has are its pieces, but for blanks. -/
theorem exists_pieces (lead trail first : List Char) (texts : List (List Char))
    (blank : ∀ c ∈ lead, Text.isBlank c = true) (blankToo : ∀ c ∈ trail, Text.isBlank c = true)
    (plain : ∀ c ∈ lead, dialect.isDelimiter c = false)
    (here : dialect.scan Nesting.surface first = Nesting.surface ∧
      dialect.cut? token (first ++ lead ++ token.dropLast) = none)
    (others : ∀ text ∈ texts, dialect.scan Nesting.surface (trail ++ text) = Nesting.surface ∧
      dialect.cut? token (trail ++ text ++ lead ++ token.dropLast) = none) :
    List.Forall₂ (fun part text => Text.trim part = Text.trim text)
      (dialect.pieces token (List.intercalate (lead ++ token ++ trail) (first :: texts)))
      (first :: texts) := by
  induction texts generalizing first with
  | nil =>
    have behind : dialect.cut? token ([] ++ first ++ (lead ++ token.dropLast)) = none := by
      rw [List.nil_append, ← List.append_assoc]
      exact here.2
    have uncut := cut?_eq_none_of_part isToken [] behind rfl
    rw [List.intercalate_singleton, pieces]
    split
    · exact .cons rfl .nil
    · next cut => cases uncut.symm.trans cut
  | cons second rest ih =>
    obtain ⟨next, later⟩ := List.forall_mem_cons.mp others
    have balanced : dialect.scan Nesting.surface (first ++ lead) = Nesting.surface := by
      rw [scan_append, here.1, scan_of_plain plain]
    have moved : trail ++ List.intercalate (lead ++ token ++ trail) (second :: rest) =
        List.intercalate (lead ++ token ++ trail) ((trail ++ second) :: rest) := by
      cases rest with
      | nil => rw [List.intercalate_singleton, List.intercalate_singleton]
      | cons third rest =>
        simp only [List.intercalate_cons_cons, List.append_assoc]
    have whole : List.intercalate (lead ++ token ++ trail) (first :: second :: rest) =
        first ++ lead ++ token ++ List.intercalate (lead ++ token ++ trail) ((trail ++ second) :: rest) := by
      rw [List.intercalate_cons_cons, ← moved]
      simp only [List.append_assoc]
    rw [whole, pieces]
    split
    · next uncut =>
      cases uncut.symm.trans (cut?_of_seam isToken _ balanced here.2 _)
    · next front back cut =>
      obtain ⟨rfl, rfl⟩ := Prod.mk.inj
        (Option.some.inj (cut.symm.trans (cut?_of_seam isToken _ balanced here.2 _)))
      refine .cons (Text.trim_append_right blank first) ?_
      obtain ⟨part, parts, head, tail, same⟩ := List.forall₂_cons_right_iff.mp (ih (trail ++ second) next later)
      rw [same]
      exact .cons (head.trans (Text.trim_append_left blankToo second)) tail

omit isToken in
/-- A token that leaves several pieces splits the text into them. -/
theorem split?_of_pieces {text : List Char} (several : 2 ≤ (dialect.pieces token text).length) :
    dialect.split? token text = some (dialect.pieces token text) := by
  rw [pieces] at several ⊢
  split
  · next uncut =>
    split at several
    · exact absurd several (Nat.not_succ_le_self 1)
    · next cut => cases uncut.symm.trans cut
  · next front back cut => rw [split?, cut, Option.map_some]

/-- Texts with a token between blanks, none of which has the token, are what it splits them into, but
for blanks. -/
theorem exists_split?_of_blanks (noBlank : ' ' ∉ token) (plain : dialect.isDelimiter ' ' = false)
    {texts : List (List Char)} (several : 2 ≤ texts.length)
    (all : ∀ text ∈ texts, dialect.scan Nesting.surface text = Nesting.surface ∧
      dialect.cut? token text = none) :
    ∃ parts, dialect.split? token (List.intercalate (' ' :: token ++ [' ']) texts) = some parts ∧
      List.Forall₂ (fun part text => Text.trim part = Text.trim text) parts texts := by
  have short : dialect.cut? token token.dropLast = none := by
    refine (cut?_eq_none_iff isToken).mpr fun front back stands => ?_
    have positive := List.length_pos_iff.mpr isToken.spelled
    have lengths := congrArg List.length stands.same
    rw [List.length_dropLast, List.length_append, List.length_append] at lengths
    omega
  have behind {text : List Char} (fine : dialect.scan Nesting.surface text = Nesting.surface ∧
      dialect.cut? token text = none) : dialect.cut? token (text ++ [' '] ++ token.dropLast) = none := by
    rw [List.append_assoc, List.singleton_append]
    exact cut?_of_joint isToken noBlank plain text fine.1 fine.2 short
  have spaced : ∀ text ∈ texts, dialect.scan Nesting.surface ([' '] ++ text) = Nesting.surface ∧
      dialect.cut? token ([' '] ++ text) = none := by
    intro text member
    obtain ⟨balanced, uncut⟩ := all text member
    refine ⟨?_, cut?_of_joint isToken noBlank plain [] rfl rfl uncut⟩
    rw [List.singleton_append, scan_cons, after_of_not_isDelimiter plain, balanced]
  cases texts with
  | nil => exact absurd several (by decide)
  | cons first rest =>
    have pieces := exists_pieces isToken [' '] [' '] first rest (by decide) (by decide)
      (List.forall_mem_singleton.mpr plain)
      ⟨(all first (List.mem_cons_self ..)).1, behind (all first (List.mem_cons_self ..))⟩
      fun text member =>
        have fine := spaced text (List.mem_cons_of_mem _ member)
        ⟨fine.1, behind fine⟩
    exact ⟨_, split?_of_pieces (pieces.length_eq ▸ several), pieces⟩

omit isToken in
/-- Texts with a character and a blank between them, none of which has the character, are what it
splits them into, but for blanks. -/
theorem exists_split?_of_separator {c : Char} (isSeparator : dialect.IsToken [c]) (visible : c ≠ ' ')
    (plain : dialect.isDelimiter ' ' = false) {texts : List (List Char)} (several : 2 ≤ texts.length)
    (all : ∀ text ∈ texts, dialect.scan Nesting.surface text = Nesting.surface ∧
      dialect.cut? [c] text = none) :
    ∃ parts, dialect.split? [c] (List.intercalate [c, ' '] texts) = some parts ∧
      List.Forall₂ (fun part text => Text.trim part = Text.trim text) parts texts := by
  have noBlank : ' ' ∉ [c] := fun member => visible (List.mem_singleton.mp member).symm
  cases texts with
  | nil => exact absurd several (by decide)
  | cons first rest =>
    have here := all first (List.mem_cons_self ..)
    have pieces := exists_pieces isSeparator [] [' '] first rest (List.forall_mem_nil _) (by decide)
      (List.forall_mem_nil _)
      ⟨here.1, by rw [List.append_nil, List.dropLast_singleton, List.append_nil]; exact here.2⟩
      fun text member => by
        obtain ⟨balanced, uncut⟩ := all text (List.mem_cons_of_mem _ member)
        rw [List.append_nil, List.dropLast_singleton, List.append_nil]
        refine ⟨?_, cut?_of_joint isSeparator noBlank plain [] rfl rfl uncut⟩
        rw [List.singleton_append, scan_cons, after_of_not_isDelimiter plain, balanced]
    exact ⟨_, split?_of_pieces (pieces.length_eq ▸ several), pieces⟩

/-- A token that is in none of the texts and not in what stands between blanks between them is
nowhere. -/
theorem cut?_of_blanks {between : List Char} (noBlank : ' ' ∉ token)
    (plain : dialect.isDelimiter ' ' = false)
    (inside : dialect.scan Nesting.surface between = Nesting.surface ∧
      dialect.cut? token between = none) {texts : List (List Char)}
    (all : ∀ text ∈ texts, dialect.scan Nesting.surface text = Nesting.surface ∧
      dialect.cut? token text = none) :
    dialect.cut? token (List.intercalate (' ' :: between ++ [' ']) texts) = none := by
  induction texts with
  | nil => rfl
  | cons first rest ih =>
    obtain ⟨here, others⟩ := List.forall_mem_cons.mp all
    cases rest with
    | nil =>
      rw [List.intercalate_singleton]
      exact here.2
    | cons second rest =>
      have tail := cut?_of_joint isToken noBlank plain between inside.1 inside.2 (ih others)
      have whole : List.intercalate (' ' :: between ++ [' ']) (first :: second :: rest) =
          first ++ ' ' ::
            (between ++ ' ' :: List.intercalate (' ' :: between ++ [' ']) (second :: rest)) := by
        rw [List.intercalate_cons_cons]
        simp only [List.append_assoc, List.cons_append, List.nil_append]
      rw [whole]
      exact cut?_of_joint isToken noBlank plain first here.1 here.2 tail

end Dialect

end Reckoner
