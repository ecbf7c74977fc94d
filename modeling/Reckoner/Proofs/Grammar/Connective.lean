import Reckoner.Proofs.Grammar.Truth

/-! # Connectives come out on top

A text that reads as a truth value falls apart at its connectives into texts that do. The argument
follows the text: where a comparison stands, the slices on its two sides are joined by it, and they still
read as its operands because a side that contains a connective is itself a truth value.
-/

namespace Reckoner

namespace Engine

def isConnective (c : Char) : Bool := c == '|' || c == '&'

variable {engine : Engine} {base : Tag} {text : List Char}

theorem mem_truthChars_of_isConnective {c : Char} (connective : isConnective c = true) :
    c ∈ Library.truthChars := by
  rcases Bool.or_eq_true_iff.mp connective with same | same
  · exact beq_iff_eq.mp same ▸ by decide
  · exact beq_iff_eq.mp same ▸ by decide

theorem isDelimiter_of_isConnective (c : Char) (connective : isConnective c = true) :
    Dialect.standard.isDelimiter c = false :=
  Library.isDelimiter_of_mem
    (Library.mem_tokenChars_of_mem_truthChars (mem_truthChars_of_isConnective connective))

theorem isConnective_of_isBlank (c : Char) (blank : Text.isBlank c = true) :
    isConnective c = false := by
  refine Bool.eq_false_iff.mpr fun connective => ?_
  have visible := Library.isBlank_of_mem (Library.mem_marks
    (Library.mem_tokenChars_of_mem_truthChars (mem_truthChars_of_isConnective connective)))
  exact absurd blank (Bool.eq_false_iff.mp visible)

/-- A kind that truth values can be taken from is theirs or null's. -/
theorem ReadsAs.boolean (reads : engine.ReadsAs .boolean text) :
    ∃ tree, engine.parse text = .ok tree ∧ (tree.kind = .boolean ∨ tree.kind = .null) := by
  obtain ⟨tree, read, takes⟩ := reads
  refine ⟨tree, read, ?_⟩
  revert takes
  generalize tree.kind = kind
  cases kind <;> decide

/-- The text is its own only slice at connectives, or it and all of its slices are truth values. -/
def SlicesLike (engine : Engine) (text : List Char) (tree : Tree) : Prop :=
  Dialect.standard.slices isConnective text = [text] ∨
    tree.kind = .boolean ∧
      ∀ slice ∈ Dialect.standard.slices isConnective text, engine.ReadsAs .boolean slice

/-- The slices of such a text read as expressions of its kind or of no kind. -/
theorem SlicesLike.exists_parse {slice : List Char} {tree : Tree} (slices : engine.SlicesLike text tree)
    (read : engine.parse text = .ok tree) (member : slice ∈ Dialect.standard.slices isConnective text) :
    ∃ part, engine.parse slice = .ok part ∧ (part.kind = tree.kind ∨ part.kind = .null) := by
  rcases slices with single | ⟨truth, all⟩
  · rw [single, List.mem_singleton] at member
    exact ⟨tree, member ▸ read, .inl rfl⟩
  · rw [truth]
    exact (all slice member).boolean

namespace Ordinary

variable (ordinary : engine.Ordinary base)

include ordinary

/-- A text that an operator of the first nine levels takes reads as a truth value. -/
theorem readsAs_boolean {entry : OperatorEntry} {operands : List Tree}
    (registered : entry ∈ Library.operators base) (loose : entry.level < 9)
    (takes : entry.Takes engine (Text.trim text) operands) : engine.ReadsAs .boolean text := by
  obtain ⟨first, others, _, below, read⟩ := ordinary.exists_tops registered takes
  refine ⟨_, read, ?_⟩
  rw [Tree.kind, OperatorKind.resultKind_of_level_lt (Nat.lt_of_le_of_lt below loose)]
  rfl

/-- The parts of a comparison around its token, without what is cut off at connectives before and behind
them, are compared like the whole operands. -/
theorem readsAs_boolean_of_cut {entry : OperatorEntry} {relation : Comparison} {left right : Tree}
    {before last head after : List Char} (registered : entry ∈ Library.operators base)
    (comparison : entry.operator.kind = .comparison relation)
    (balanced : Dialect.standard.scan Nesting.surface before = Nesting.surface)
    (cut : Dialect.standard.cut? entry.operator.kind.token
      (before ++ (last ++ entry.operator.kind.token ++ head) ++ after) =
        some (before ++ last, head ++ after))
    (uncut : Dialect.standard.cut? entry.operator.kind.token (head ++ after) = none)
    (first : engine.parse last = .ok left) (second : engine.parse head = .ok right)
    (together : left.kind.compatible right.kind = true) :
    engine.ReadsAs .boolean (last ++ entry.operator.kind.token ++ head) := by
  have isToken := entry.operator.kind.isToken
  have loose : entry.level < 9 := by
    rw [OperatorEntry.level, comparison]
    cases relation <;> decide
  have cutToo : Dialect.standard.cut? entry.operator.kind.token
      (last ++ entry.operator.kind.token ++ head) = some (last, head) :=
    Dialect.cut?_eq_some_of_part isToken before after cut balanced
  have uncutToo : Dialect.standard.cut? entry.operator.kind.token head = none :=
    Dialect.cut?_eq_none_of_part isToken [] uncut rfl
  have takes := (OperatorEntry.takes_iff_of_comparison ordinary registered comparison).mpr
    ⟨last, head, cutToo, uncutToo, first, second, together⟩
  exact ordinary.readsAs_boolean registered loose
    (ordinary.takes_trim_of_comparison registered comparison takes)

/-- An operand of a comparison is its own only slice, or a truth value like all of them. -/
theorem slicesLike_of_operand {tree : Tree} (read : engine.parse text = .ok tree)
    (all : Kind.boolean.takes tree.kind = true →
      ∀ slice ∈ Dialect.standard.slices isConnective text, engine.ReadsAs .boolean slice) :
    engine.SlicesLike text tree := by
  rcases Dialect.standard.exists_cut_or_slices_eq isConnective text with
    ⟨c, member, connective⟩ | single
  · have truth := ordinary.kind_of_truthChar read (mem_truthChars_of_isConnective connective) member
    exact .inr ⟨truth, all (by rw [truth]; rfl)⟩
  · exact .inl single

/-- A comparison joins the slices at its token, and the others stay what they are. -/
theorem slices_of_comparison {entry : OperatorEntry} {relation : Comparison} {left right : Tree}
    {front back : List Char} (registered : entry ∈ Library.operators base)
    (comparison : entry.operator.kind = .comparison relation)
    (cut : Dialect.standard.cut? entry.operator.kind.token text = some (front, back))
    (uncut : Dialect.standard.cut? entry.operator.kind.token back = none)
    (first : engine.parse front = .ok left) (second : engine.parse back = .ok right)
    (together : left.kind.compatible right.kind = true)
    (leftSlices : engine.SlicesLike front left) (rightSlices : engine.SlicesLike back right) :
    ∀ slice ∈ Dialect.standard.slices isConnective text, engine.ReadsAs .boolean slice := by
  have isToken := entry.operator.kind.isToken
  have tokenUncut : ∀ c ∈ entry.operator.kind.token, isConnective c = false := by
    rw [comparison]
    cases relation <;> decide
  obtain ⟨same, surface⟩ := ((Dialect.cut?_eq_some_iff isToken).mp cut).1
  obtain ⟨inner, last, head, outer, leftSame, rightSame, whole⟩ :=
    Dialect.slices_join isDelimiter_of_isConnective surface isToken.plain tokenUncut back
  obtain ⟨lastTree, lastRead, lastKind⟩ := leftSlices.exists_parse first
    (by rw [leftSame]; exact List.mem_append_right inner (List.mem_singleton_self last))
  obtain ⟨headTree, headRead, headKind⟩ := rightSlices.exists_parse second
    (by rw [rightSame]; exact List.mem_cons_self (a := head))
  obtain ⟨before, rfl, balanced⟩ : ∃ before, front = before ++ last ∧
      Dialect.standard.scan Nesting.surface before = Nesting.surface := by
    rcases Dialect.exists_append_eq_of_slicesFrom isDelimiter_of_isConnective leftSame with
      ⟨_, rfl⟩ | found
    · exact ⟨[], rfl, rfl⟩
    · exact found
  obtain ⟨after, rfl⟩ := Dialect.exists_eq_append_of_slicesFrom rightSame
  have middle : engine.ReadsAs .boolean (last ++ entry.operator.kind.token ++ head) := by
    have parts : before ++ (last ++ entry.operator.kind.token ++ head) ++ after = text := by
      rw [same]
      simp only [List.append_assoc]
    exact ordinary.readsAs_boolean_of_cut registered comparison balanced (parts ▸ cut) uncut
      lastRead headRead (Kind.compatible_of_eq_or_null together lastKind headKind)
  rw [same, whole, List.forall_mem_append, List.forall_mem_cons]
  refine ⟨fun slice member => ?_, middle, fun slice member => ?_⟩
  · rcases leftSlices with single | ⟨_, all⟩
    · obtain ⟨rfl, _⟩ :=
        List.append_inj' (show [] ++ [before ++ last] = inner ++ [last] from single.symm.trans leftSame) rfl
      exact absurd member List.not_mem_nil
    · exact all slice (by rw [leftSame]; exact List.mem_append_left _ member)
  · rcases rightSlices with single | ⟨_, all⟩
    · obtain ⟨_, rfl⟩ := List.cons.inj (single.symm.trans rightSame)
      exact absurd member List.not_mem_nil
    · exact all slice (by rw [rightSame]; exact List.mem_cons_of_mem _ member)

section Parts

variable {entry : OperatorEntry} {operands : List Tree} (registered : entry ∈ Library.operators base)
  (takes : entry.Takes engine text operands)
  (shorter : ∀ slice : List Char, slice.length < text.length → engine.ReadsAs .boolean slice →
    ∀ part ∈ Dialect.standard.slices isConnective slice, engine.ReadsAs .boolean part)

include registered takes shorter

/-- The operands of a conjunction or disjunction fall apart at their connectives, and it does with them. -/
theorem forall_connective_slices_of_chains {d : Char} (chains : entry.operator.kind.Chains d .boolean)
    (among : ∀ c, (c == d || isConnective c) = isConnective c) :
    ∀ slice ∈ Dialect.standard.slices isConnective text, engine.ReadsAs .boolean slice := by
  have isToken : Dialect.standard.IsToken [d] := chains.token ▸ entry.operator.kind.isToken
  obtain ⟨inside, all⟩ :=
    (OperatorEntry.exists_takes_of_chains ordinary registered chains).mp ⟨operands, takes⟩
  rw [← funext among, ← Dialect.forall_slices_slices (· == d) isDelimiter_of_isConnective]
  exact fun slice present =>
    shorter slice (Dialect.length_lt_of_mem_slices isToken inside present) (all slice present)

/-- A negation stands in front of the first slice of its operand, and the other slices stay what they
are. -/
theorem forall_connective_slices_of_not (negates : entry.operator.kind = .not) :
    ∀ slice ∈ Dialect.standard.slices isConnective text, engine.ReadsAs .boolean slice := by
  have prefixes : entry.operator.kind.Prefixes .boolean := negates ▸ OperatorKind.prefixes_not
  have token : entry.operator.kind.token = ['!'] := by rw [negates]; rfl
  have loose : entry.level < 9 := by rw [OperatorEntry.level, negates]; decide
  obtain ⟨operand, same, reads⟩ :=
    (OperatorEntry.exists_takes_of_prefixes ordinary registered prefixes).mp ⟨operands, takes⟩
  have negated (slice : List Char) (reads : engine.ReadsAs .boolean slice) :
      engine.ReadsAs .boolean (['!'] ++ slice) := by
    obtain ⟨_, takesToo⟩ := ordinary.exists_takes_trim_of_prefixes registered prefixes reads
    rw [token] at takesToo
    exact ordinary.readsAs_boolean registered loose takesToo
  rw [token] at same
  have all := shorter operand (by rw [same]; exact Nat.lt_succ_self _) reads
  obtain ⟨first, outer, slices, joined⟩ := Dialect.slices_append_left
    isDelimiter_of_isConnective ['!'] (by decide) (by decide) operand
  rw [slices, List.forall_mem_cons] at all
  rw [same, joined, List.forall_mem_cons]
  exact ⟨negated first all.1, all.2⟩

end Parts

/-- A text that reads as a truth value falls apart at its connectives into texts that do. -/
theorem forall_connective_slices (reads : engine.ReadsAs .boolean text) :
    ∀ slice ∈ Dialect.standard.slices isConnective text, engine.ReadsAs .boolean slice := by
  obtain ⟨tree, read, takes⟩ := reads
  revert takes
  refine parse_induction (motive := fun text tree => Kind.boolean.takes tree.kind = true →
    ∀ slice ∈ Dialect.standard.slices isConnective text, engine.ReadsAs .boolean slice)
    ?_ text tree read
  intro text tree whole shorter takes
  rcases Dialect.standard.exists_cut_or_slices_eq isConnective text with
    ⟨c, member, connective⟩ | single
  swap
  · rw [single]
    exact List.forall_mem_singleton.mpr ⟨tree, whole, takes⟩
  have truth := mem_truthChars_of_isConnective connective
  rcases ordinary.tops_of_surface whole (Library.mem_tokenChars_of_mem_truthChars truth) member with
    ⟨entry, operands, tops, rfl⟩ | ⟨_, _, sign, _⟩
  swap
  · have signless : ∀ c ∈ Library.truthChars, ¬ Text.isSign c = true := by decide
    exact absurd sign (signless c truth)
  rw [← forall_slices_trim isDelimiter_of_isConnective isConnective_of_isBlank]
  have trimmed := Text.length_trim_le text
  have part (slice : List Char) (length : slice.length < (Text.trim text).length)
      (reads : engine.ReadsAs .boolean slice) :
      ∀ part ∈ Dialect.standard.slices isConnective slice, engine.ReadsAs .boolean part := by
    obtain ⟨inner, read, takes⟩ := reads
    exact shorter slice inner (by omega) read takes
  rcases Nat.lt_or_ge entry.level 9 with loose | tight
  swap
  · have other : ∀ kind ∈ [Kind.long, .double, .string], Kind.boolean.takes kind = false := by decide
    rw [Tree.kind, other _ (OperatorKind.resultKind_of_le_level tight)] at takes
    exact absurd takes Bool.false_ne_true
  cases sort : entry.operator.kind with
  | or =>
    exact ordinary.forall_connective_slices_of_chains tops.registered tops.takes part
      (sort ▸ OperatorKind.chains_or) fun c => by rw [isConnective, ← Bool.or_assoc, Bool.or_self]
  | and =>
    exact ordinary.forall_connective_slices_of_chains tops.registered tops.takes part
      (sort ▸ OperatorKind.chains_and) fun c => by
        rw [isConnective, Bool.or_comm, Bool.or_assoc, Bool.or_self]
  | not =>
    exact ordinary.forall_connective_slices_of_not tops.registered tops.takes part sort
  | comparison relation =>
    obtain ⟨left, right, rfl⟩ := OperatorEntry.exists_pair_of_comparison sort tops.takes
    obtain ⟨front, back, parted, uncut, first, second, together⟩ :=
      (OperatorEntry.takes_iff_of_comparison ordinary tops.registered sort).mp tops.takes
    have lengths := Dialect.length_of_cutFrom? parted
    refine ordinary.slices_of_comparison tops.registered sort parted uncut first second together
      (ordinary.slicesLike_of_operand first fun takes => ?_)
      (ordinary.slicesLike_of_operand second fun takes => ?_)
    · exact part front (by omega) ⟨left, first, takes⟩
    · exact part back (by omega) ⟨right, second, takes⟩
  | _ =>
    rw [OperatorEntry.level, sort] at loose
    exact absurd loose (Nat.not_lt_of_le (Nat.le_of_ble_eq_true rfl))

/-- A text whose slices at a connective are truth values is one. -/
theorem readsAs_boolean_of_slices {entry : OperatorEntry} {c : Char}
    (registered : entry ∈ Library.operators base) (loose : entry.level < 9)
    (chains : entry.operator.kind.Chains c .boolean)
    (all : ∀ slice ∈ Dialect.standard.slices (· == c) text, engine.ReadsAs .boolean slice) :
    engine.ReadsAs .boolean text := by
  rcases Dialect.standard.mem_surfaceChars_or_slices_eq c text with member | single
  · obtain ⟨operands, takes⟩ :=
      (ordinary.exists_takes_trim_of_chains registered chains).mpr ⟨member, all⟩
    exact ordinary.readsAs_boolean registered loose takes
  · exact all text (by rw [single]; exact List.mem_singleton_self text)

/-- A disjunction is on top of every truth value with its token at the surface, and a conjunction or a
disjunction is on top of every one with the token of a conjunction. -/
theorem level_of_connective {entry : OperatorEntry} {operands : List Tree}
    (reads : engine.ReadsAs .boolean text) (tops : engine.Tops base entry (Text.trim text) operands) :
    ('|' ∈ Dialect.standard.surfaceChars text → entry.level = 0) ∧
      ('&' ∈ Dialect.standard.surfaceChars text → entry.level ≤ 1) := by
  obtain ⟨disjunction, isDisjunction, disjoins⟩ : ∃ entry ∈ Library.operators base,
    entry.operator.kind = .or := ⟨_, List.mem_cons_self .., rfl⟩
  obtain ⟨conjunction, isConjunction, conjoins⟩ : ∃ entry ∈ Library.operators base,
    entry.operator.kind = .and := ⟨_, List.mem_cons_of_mem _ (List.mem_cons_self ..), rfl⟩
  have chainsOr : disjunction.operator.kind.Chains '|' .boolean := disjoins ▸ OperatorKind.chains_or
  have chainsAnd : conjunction.operator.kind.Chains '&' .boolean := conjoins ▸ OperatorKind.chains_and
  have levelOr : disjunction.level = 0 := congrArg OperatorKind.level disjoins
  have levelAnd : conjunction.level = 1 := congrArg OperatorKind.level conjoins
  have all := ordinary.forall_connective_slices reads
  refine ⟨fun member => ?_, fun member => ?_⟩
  · by_contra above
    have parts := (Dialect.forall_slices_slices (· == '|')
      (Library.isDelimiter_of_beq (c := '&') (by decide))).mpr all
    obtain ⟨others, takes⟩ :=
      (ordinary.exists_takes_trim_of_chains isDisjunction chainsOr).mpr ⟨member, fun slice present =>
        ordinary.readsAs_boolean_of_slices isConjunction (by omega) chainsAnd (parts slice present)⟩
    exact tops.skipped disjunction isDisjunction (by omega) others takes
  · by_contra above
    have parts : ∀ slice ∈ Dialect.standard.slices (· == '&') text,
        ∀ part ∈ Dialect.standard.slices (· == '|') slice, engine.ReadsAs .boolean part := by
      have order : isConnective = fun c => c == '&' || c == '|' := funext fun c => Bool.or_comm _ _
      rw [Dialect.forall_slices_slices (· == '&') (Library.isDelimiter_of_beq (c := '|') (by decide)), ← order]
      exact all
    obtain ⟨others, takes⟩ :=
      (ordinary.exists_takes_trim_of_chains isConjunction chainsAnd).mpr ⟨member, fun slice present =>
        ordinary.readsAs_boolean_of_slices isDisjunction (by omega) chainsOr (parts slice present)⟩
    exact tops.skipped conjunction isConjunction (by omega) others takes

end Ordinary

end Engine

end Reckoner
