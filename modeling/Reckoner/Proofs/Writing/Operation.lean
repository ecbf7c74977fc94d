import Reckoner.Proofs.Writing.Expression

/-! # Operations read back

A looser operator passes over the text of an operation, because its token is not found there, because
the text does not begin or end with it, or because what is in front of a sign is empty. So the operator
that the text was written for comes out on top, and takes the texts of its operands.
-/

namespace Reckoner

namespace OperatorKind

variable {operator : OperatorKind}

theorem eq_addition_of_level (nine : operator.level = 9) : operator = addition := by
  cases operator with
  | addition => rfl
  | comparison relation => cases relation <;> exact absurd nine (by decide)
  | _ => exact absurd nine (Nat.ne_of_beq_eq_false rfl)

theorem eq_concatenation_of_level (ten : operator.level = 10) : operator = concatenation := by
  cases operator with
  | concatenation => rfl
  | comparison relation => cases relation <;> exact absurd ten (by decide)
  | _ => exact absurd ten (Nat.ne_of_beq_eq_false rfl)

theorem token_of_level (eleven : operator.level = 11) : operator.token = ['-'] := by
  cases operator with
  | subtraction => rfl
  | comparison relation => cases relation <;> exact absurd eleven (by decide)
  | _ => exact absurd eleven (Nat.ne_of_beq_eq_false rfl)

/-- No token has a blank. -/
theorem blank_not_mem_token (operator : OperatorKind) : ' ' ∉ operator.token := fun member =>
  absurd (Library.mem_tokenChars ' ' member) (by decide)

/-- A unary operator accepts a single operand. -/
theorem length_of_accepts {kinds : List Kind} (unary : operator.isUnary = true)
    (accepted : operator.accepts kinds = true) : kinds.length = 1 := by
  cases operator with
  | not | square | negation => exact beq_iff_eq.mp (Bool.and_eq_true_iff.mp accepted).1
  | _ => exact absurd unary Bool.false_ne_true

/-- An operator between operands accepts two or more. -/
theorem two_le_length_of_accepts {kinds : List Kind} (between : operator.isUnary = false)
    (accepted : operator.accepts kinds = true) : 2 ≤ kinds.length := by
  cases operator with
  | not | square | negation => exact absurd between.symm Bool.false_ne_true
  | comparison => exact Nat.le_of_eq (beq_iff_eq.mp (Bool.and_eq_true_iff.mp accepted).1).symm
  | _ => exact of_decide_eq_true (Bool.and_eq_true_iff.mp accepted).1

end OperatorKind

namespace Library

/-- The levels and tokens of the operators that stand between operands. -/
def levels : List (Nat × List Char) :=
  [(0, ['|']), (1, ['&']), (3, ['!', '=']), (4, ['<', '=']), (5, ['>', '=']), (6, ['=']), (7, ['<']),
    (8, ['>']), (9, ['+']), (10, ['+']), (11, ['-']), (12, ['*']), (13, ['/'])]

/-- Every operator that stands between operands is listed with its level and its token. -/
theorem mem_levels {operator : OperatorKind} (between : operator.isUnary = false) :
    (operator.level, operator.token) ∈ levels := by
  cases operator with
  | not | square | negation => exact absurd between.symm Bool.false_ne_true
  | comparison relation => cases relation <;> decide
  | _ => dsimp only [OperatorKind.level, OperatorKind.token]; decide

end Library

/-- The token of a looser operator is found in no other token between operands. -/
theorem OperatorKind.cut?_token {looser tighter : OperatorKind} (between : looser.isUnary = false)
    (betweenToo : tighter.isUnary = false) (below : looser.level < tighter.level)
    (other : looser.level = 9 → tighter.level ≠ 10) :
    Dialect.standard.cut? looser.token tighter.token = none := by
  have all : ∀ first ∈ Library.levels, ∀ second ∈ Library.levels, first.1 < second.1 →
      (first.1 = 9 → second.1 ≠ 10) → Dialect.standard.cut? first.2 second.2 = none := by decide
  exact all _ (Library.mem_levels between) _ (Library.mem_levels betweenToo) below other

namespace Engine

variable {engine : Engine} {base : Tag}

def rowText (token : List Char) (texts : List (List Char)) : List Char :=
  List.intercalate (' ' :: token ++ [' ']) texts

/-- Each of the texts can stand among several operands at this level. -/
def Row (engine : Engine) (level : Nat) (texts : List (List Char)) : Prop :=
  ∀ text ∈ texts, ∃ operand, engine.Joins level operand text

/-- Texts that can be joined at a level stand there in a row. -/
theorem row_of_joins {level : Nat} {operands : List Tree} {texts : List (List Char)}
    (joins : List.Forall₂ (fun text operand => engine.Joins level operand text) texts operands) :
    engine.Row level texts := by
  induction joins with
  | nil => exact List.forall_mem_nil _
  | cons here _ ih => exact List.forall_mem_cons.mpr ⟨⟨_, here⟩, ih⟩

namespace Row

variable {level : Nat} {texts : List (List Char)} (row : engine.Row level texts)

include row

/-- A row of balanced texts is balanced. -/
theorem balanced (operator : OperatorKind) :
    Dialect.standard.Balanced (rowText operator.token texts) := by
  have blank : Dialect.standard.Balanced [' '] := Dialect.balanced_singleton rfl
  have between := Dialect.balanced_of_plain operator.isToken.plain
  refine Dialect.Balanced.intercalate ((blank.append between).append blank) fun text member => ?_
  obtain ⟨operand, joins⟩ := row text member
  exact joins.balanced

theorem tight (token : List Char) (spelled : texts ≠ []) : Text.Tight (rowText token texts) := by
  refine Text.Tight.intercalate spelled (fun text member => ?_) _
  obtain ⟨operand, joins⟩ := row text member
  exact joins.tight

theorem head?_ne (token : List Char) (spelled : texts ≠ []) :
    (rowText token texts).head? ≠ some '!' := by
  obtain ⟨first, rest, rfl⟩ := List.exists_cons_of_ne_nil spelled
  obtain ⟨operand, joins⟩ := row first (List.mem_cons_self ..)
  obtain ⟨c, tail, rfl, _⟩ := joins.tight.first
  rw [rowText, List.intercalate_cons_cons_left]
  exact joins.unnegated

/-- No separator divides a row. -/
theorem undivided {operator : OperatorKind} (between : operator.isUnary = false) :
    Dialect.standard.cut? [','] (rowText operator.token texts) = none := by
  have all : ∀ pair ∈ Library.levels, Dialect.standard.cut? [','] pair.2 = none := by decide
  refine Dialect.cut?_of_blanks Dialect.isToken_separator (by decide) rfl
    ⟨Dialect.scan_of_plain operator.isToken.plain _, all _ (Library.mem_levels between)⟩ ?_
  intro text member
  obtain ⟨operand, joins⟩ := row text member
  exact ⟨joins.balanced.scan 0, joins.undivided⟩

/-- The texts of a row are not cut by tokens of its level or a looser one. -/
theorem apart {operator : OperatorKind} (between : operator.isUnary = false)
    (loose : operator.level ≤ level) : ∀ text ∈ texts,
      Dialect.standard.scan Nesting.surface text = Nesting.surface ∧
        Dialect.standard.cut? operator.token text = none := by
  intro text member
  obtain ⟨operand, joins⟩ := row text member
  exact ⟨joins.balanced.scan 0, joins.uncut operator between loose⟩

theorem uncut {operator : OperatorKind} (between : operator.isUnary = false)
    (same : operator.level = level) : Uncut level (rowText operator.token texts) :=
  fun looser betweenToo below other _ =>
    Dialect.cut?_of_blanks looser.isToken looser.blank_not_mem_token rfl
      ⟨Dialect.scan_of_plain operator.isToken.plain _,
        OperatorKind.cut?_token betweenToo between (same ▸ below) (same ▸ other)⟩
      (row.apart betweenToo (Nat.le_of_lt below))

/-- A row is split where its token stands between the texts, blanks aside. -/
theorem exists_split? {operator : OperatorKind} (between : operator.isUnary = false)
    (same : operator.level = level) (several : 2 ≤ texts.length) :
    ∃ parts, Dialect.standard.split? operator.token (rowText operator.token texts) = some parts ∧
      List.Forall₂ (fun part text => Text.trim part = Text.trim text) parts texts :=
  Dialect.exists_split?_of_blanks operator.isToken operator.blank_not_mem_token rfl several
    (row.apart between (Nat.le_of_eq same))

end Row

/-- An operator passes over a text that falls apart into operands which it does not accept. -/
theorem skips_of_rejected {other : OperatorEntry} {text : List Char} {parts : List (List Char)}
    {operands : List Tree} (split : other.fragments? engine.dialect text = some parts)
    (read : engine.ReadsAll parts operands) (rejected : other.operator.accepts operands = false) :
    other.Skips engine text := by
  rintro others ⟨⟨partsToo, splitToo, readToo⟩, accepted⟩
  obtain rfl := Option.some.inj (split.symm.trans splitToo)
  have unique : Relator.RightUnique fun part tree => engine.parse part = .ok tree :=
    fun _ _ _ first second => Except.ok.inj (first.symm.trans second)
  rw [List.right_unique_forall₂' unique read readToo, accepted] at rejected
  exact absurd rejected Bool.false_ne_true.symm

namespace Ordinary

variable (ordinary : engine.Ordinary base)

include ordinary

/-- The entry that tops a text makes the expression that it reads as. -/
theorem parse_of_tops {entry : OperatorEntry} {text : List Char} {operands : List Tree}
    (tight : Text.Tight text) (tops : engine.Tops base entry text operands) :
    engine.parse text = .ok (.operation entry.operator operands) := by
  obtain ⟨c, member⟩ := List.exists_mem_of_ne_nil _ entry.operator.kind.isToken.spelled
  have token := Library.mem_tokenChars c member
  have inside := OperatorEntry.mem_surfaceChars_of_takes ordinary tops.registered tops.takes c member
  have unnamed := ordinary.named?_eq_none (Library.mem_marks token)
    (Dialect.mem_of_mem_surfaceFrom inside)
  have bare := ordinary.bare_of_mem token inside
  obtain ⟨before, after, entries⟩ := List.append_of_mem tops.registered
  have trimmed := tight.trim_eq
  refine parse_operation (trimmed.symm ▸ bare) (trimmed.symm ▸ unnamed)
    (ordinary.operators.trans entries) (fun other present => ?_) (trimmed.symm ▸ tops.takes)
  rw [trimmed]
  obtain ⟨registered, below⟩ := (Library.mem_before_iff entries).mp present
  exact tops.skipped other registered below

section Skips

variable {other : OperatorEntry} (registered : other ∈ Library.operators base) {text : List Char}

include registered

/-- An operator whose token is not found passes over the text. -/
theorem skips_of_cut? (between : other.operator.kind.isUnary = false)
    (uncut : Dialect.standard.cut? other.operator.kind.token text = none) :
    other.Skips engine text := by
  rintro operands ⟨⟨parts, split, _⟩, _⟩
  rw [ordinary.dialect, OperatorEntry.fragments?_of_between registered between, Dialect.split?,
    uncut] at split
  cases split

/-- An operator in front of its operand passes over a text that does not begin with its token. -/
theorem skips_of_head? {c : Char} (unary : other.operator.kind.isUnary = true)
    (before : other.operator.kind.isSuffix = false) (token : other.operator.kind.token = [c])
    (unstarted : text.head? ≠ some c) : other.Skips engine text := by
  rintro operands ⟨⟨parts, split, _⟩, _⟩
  rw [ordinary.dialect, OperatorEntry.fragments?_of_before registered unary before, token] at split
  obtain ⟨operand, _, rfl⟩ := split
  exact unstarted rfl

/-- An operator behind its operand passes over a text that does not end with its token. -/
theorem skips_of_getLast? {c : Char} (unary : other.operator.kind.isUnary = true)
    (behind : other.operator.kind.isSuffix = true) (token : other.operator.kind.token = [c])
    (unended : text.getLast? ≠ some c) : other.Skips engine text := by
  rintro operands ⟨⟨parts, split, _⟩, _⟩
  rw [ordinary.dialect, OperatorEntry.fragments?_of_behind registered unary behind, token] at split
  obtain ⟨operand, _, rfl⟩ := split
  exact unended List.getLast?_concat

end Skips

section Nameless

variable (nameless : engine.named? [] = none)

include nameless

/-- An operator between operands passes over a text that begins with its token. -/
theorem skips_of_empty {other : OperatorEntry} (registered : other ∈ Library.operators base)
    {text : List Char} {c : Char} (between : other.operator.kind.isUnary = false)
    (token : other.operator.kind.token = [c]) (started : text.head? = some c) :
    other.Skips engine text := by
  rintro operands ⟨⟨parts, split, read⟩, _⟩
  obtain ⟨rest, rfl⟩ := List.head?_eq_some_iff.mp started
  have isToken : Dialect.standard.IsToken [c] := token ▸ other.operator.kind.isToken
  have cut : Dialect.standard.cut? [c] (c :: rest) = some ([], rest) :=
    Dialect.cut?_of_seam isToken [] rfl rfl rest
  rw [ordinary.dialect, OperatorEntry.fragments?_of_between registered between, token,
    Dialect.split?, cut] at split
  obtain rfl := Option.some.inj split
  obtain ⟨operand, _, success⟩ := exists_operand_of_readsAll read (List.mem_cons_self ..)
  exact ordinary.parse_nil nameless operand success

/-- An operator takes a text in which no looser one is found. -/
theorem tops_of_uncut {entry : OperatorEntry} {text : List Char} {operands : List Tree}
    (registered : entry ∈ Library.operators base) (takes : entry.Takes engine text operands)
    (uncut : Uncut entry.level text) (unnegated : 2 < entry.level → text.head? ≠ some '!')
    (unsquared : entry.level = 15 → text.getLast? ≠ some '²')
    (unadded : entry.level = 10 → ∀ other ∈ Library.operators base, other.level = 9 →
      other.Skips engine text) : engine.Tops base entry text operands := by
  refine ⟨registered, takes, fun other present below => ?_⟩
  cases unary : other.operator.kind.isUnary with
  | true =>
    cases sort : other.operator.kind with
    | not =>
      rw [OperatorEntry.level, sort] at below
      exact ordinary.skips_of_head? present (by rw [sort]; rfl) (by rw [sort]; rfl)
        (by rw [sort]; rfl) (unnegated below)
    | square =>
      rw [OperatorEntry.level, sort] at below
      have last : entry.level = 15 := Nat.le_antisymm
        (Nat.le_of_lt_succ entry.operator.kind.level_lt) below
      exact ordinary.skips_of_getLast? present (by rw [sort]; rfl) (by rw [sort]; rfl)
        (by rw [sort]; rfl) (unsquared last)
    | negation =>
      rw [OperatorEntry.level, sort] at below
      exact absurd entry.operator.kind.level_lt (Nat.not_lt_of_le below)
    | _ => rw [sort] at unary; exact absurd unary Bool.false_ne_true
  | false =>
    by_cases sum : other.level = 9 ∧ entry.level = 10
    · exact unadded sum.2 other present sum.1
    · by_cases sign : other.level = 11 ∧ text.head? = some '-'
      · exact ordinary.skips_of_empty nameless present unary (OperatorKind.token_of_level sign.1) sign.2
      · refine ordinary.skips_of_cut? present unary (uncut _ unary below ?_ ?_)
        · exact fun nine ten => sum ⟨nine, ten⟩
        · exact fun eleven started => sign ⟨eleven, started⟩

/-- Texts that read as operands of an operator, with its token between them, read as the operation,
unless it is a concatenation and an addition takes the operands. -/
theorem parse_rowText {entry : OperatorEntry} {trees : List Tree} {texts : List (List Char)}
    (registered : entry ∈ Library.operators base) (between : entry.operator.kind.isUnary = false)
    (row : engine.Row entry.level texts) (read : engine.ReadsAll texts trees)
    (accepted : entry.operator.accepts trees = true)
    (unadded : entry.level = 10 → ∀ other ∈ Library.operators base, other.level = 9 →
      other.operator.accepts trees = false) :
    engine.parse (rowText entry.operator.kind.token texts) =
      .ok (.operation entry.operator trees) := by
  have several : 2 ≤ texts.length := by
    have lengths := OperatorKind.two_le_length_of_accepts between accepted
    rwa [Tree.kinds_eq_map, List.length_map, ← read.length_eq] at lengths
  have spelled : texts ≠ [] := by
    rintro rfl
    exact absurd several (by decide)
  have atMost : ∀ pair ∈ Library.levels, pair.1 ≤ 14 := by decide
  obtain ⟨parts, split, trims⟩ := row.exists_split? between rfl several
  have readParts := readsAll_of_trim trims read
  have splits {other : OperatorEntry} (present : other ∈ Library.operators base)
      (betweenToo : other.operator.kind.isUnary = false)
      (sameToken : other.operator.kind.token = entry.operator.kind.token) :
      other.fragments? engine.dialect (rowText entry.operator.kind.token texts) = some parts := by
    rw [ordinary.dialect, OperatorEntry.fragments?_of_between present betweenToo, sameToken]
    exact split
  have takes : entry.Takes engine (rowText entry.operator.kind.token texts) trees :=
    ⟨⟨parts, splits registered between rfl, readParts⟩, accepted⟩
  refine ordinary.parse_of_tops (row.tight entry.operator.kind.token spelled)
    (ordinary.tops_of_uncut nameless registered takes (row.uncut between rfl)
      (fun _ => row.head?_ne entry.operator.kind.token spelled) (fun last => ?_)
      fun ten other present nine => ?_)
  · exact absurd last.ge (Nat.not_le_of_lt (Nat.lt_succ_of_le (atMost _ (Library.mem_levels between))))
  · -- An addition finds the same operands, which it does not accept.
    refine skips_of_rejected (splits present ?_ ?_) readParts (unadded ten other present nine)
    · rw [OperatorKind.eq_addition_of_level nine]
      rfl
    · rw [OperatorKind.eq_addition_of_level nine, OperatorKind.eq_concatenation_of_level ten]
      rfl

end Nameless

end Ordinary

namespace Legible

variable (legible : engine.Legible base)

include legible

/-- A token between the texts of operands makes the text of the operation. -/
theorem writes_between {entry : OperatorEntry} {operands : List Tree} {texts : List (List Char)}
    (registered : entry ∈ Library.operators base) (between : entry.operator.kind.isUnary = false)
    (accepted : entry.operator.accepts operands = true)
    (unadded : entry.level = 10 → ∀ other ∈ Library.operators base, other.level = 9 →
      other.operator.accepts operands = false)
    (joins : List.Forall₂ (fun text operand => engine.Joins entry.level operand text) texts operands) :
    engine.Writes (.operation entry.operator operands)
      (rowText entry.operator.kind.token texts) := by
  have ordinary := legible.toOrdinary
  have row := row_of_joins joins
  have spelled : texts ≠ [] := by
    rintro rfl
    rw [List.forall₂_nil_left_iff.mp joins] at accepted
    exact absurd (OperatorKind.two_le_length_of_accepts between accepted) (by decide)
  have tight := row.tight entry.operator.kind.token spelled
  have unnegated := row.head?_ne entry.operator.kind.token spelled
  have atMost : ∀ pair ∈ Library.levels, pair.1 ≤ 14 := by decide
  obtain ⟨backs, readAll, same, alike⟩ :=
    exists_readsAll_of_spells (joins.imp fun _ _ joins => joins.toSpells)
  have read := ordinary.parse_rowText legible.nameless registered between row readAll
    ((Operator.accepts_of_alike alike).trans accepted) fun ten other present nine =>
      (Operator.accepts_of_alike alike).trans (unadded ten other present nine)
  refine ⟨⟨⟨_, read, ?_⟩, row.balanced _, tight, row.undivided between⟩, row.uncut between rfl,
    fun _ => unnegated, fun last => ?_, fun leaf => ?_⟩
  · rw [Tree.bare, Tree.bare, same]
  · exact absurd last (Nat.not_lt_of_le (atMost _ (Library.mem_levels between)))
  · exact absurd entry.operator.kind.level_lt (Nat.not_lt_of_le (Nat.le_of_eq leaf.symm))

/-- A token in front of the text of its operand makes the text of the operation. -/
theorem writes_before {entry : OperatorEntry} {operand : Tree} {text : List Char} {c : Char}
    (registered : entry ∈ Library.operators base) (unary : entry.operator.kind.isUnary = true)
    (before : entry.operator.kind.isSuffix = false) (token : entry.operator.kind.token = [c])
    (accepted : entry.operator.accepts [operand] = true) (spells : engine.Spells operand text)
    (apart : ∀ operator : OperatorKind, operator.isUnary = false → operator.level < entry.level →
      (operator.level = 11 → c ≠ '-') →
      c ∉ operator.token ∧ Dialect.standard.cut? operator.token text = none)
    (unnegated : 2 < entry.level → c ≠ '!') (unsquared : entry.level = 15 → text.getLast? ≠ some '²') :
    engine.Writes (.operation entry.operator [operand]) (c :: text) := by
  have ordinary := legible.toOrdinary
  have isToken : Dialect.standard.IsToken [c] := token ▸ entry.operator.kind.isToken
  have plain : Dialect.standard.isDelimiter c = false := isToken.plain c (List.mem_singleton_self c)
  have cutter : c ∈ Library.tokenChars :=
    Library.mem_tokenChars c (token ▸ List.mem_singleton_self c)
  obtain ⟨back, read, same⟩ := spells.reads
  have takes : entry.Takes engine (c :: text) [back] := by
    refine ⟨⟨[text], ?_, .cons read .nil⟩, ?_⟩
    · rw [ordinary.dialect, OperatorEntry.fragments?_of_before registered unary before, token]
      exact ⟨text, rfl, rfl⟩
    · exact (Operator.accepts_of_alike (.cons (Tree.alike_of_bare same) .nil)).trans accepted
  have uncut : Uncut entry.level (c :: text) := fun operator between below _ signless => by
    obtain ⟨other, uncut⟩ := apart operator between below fun eleven minus =>
      signless eleven (congrArg some minus)
    exact Dialect.cut?_of_joint operator.isToken other plain [] rfl rfl uncut
  have tight : Text.Tight (c :: text) := by
    obtain ⟨front, d, rfl, visible⟩ := spells.tight.last
    exact ⟨⟨c, _, rfl, Library.isBlank_of_mem (Library.mem_marks cutter)⟩, ⟨c :: front, d, rfl, visible⟩⟩
  have started (two : 2 < entry.level) : (c :: text).head? ≠ some '!' := fun first =>
    unnegated two (Option.some.inj first)
  have ended (last : entry.level = 15) : (c :: text).getLast? ≠ some '²' := by
    obtain ⟨d, rest, rfl, _⟩ := spells.tight.first
    rw [List.getLast?_cons_cons]
    exact unsquared last
  have tops := ordinary.tops_of_uncut legible.nameless registered takes uncut started ended fun ten => by
    rw [OperatorKind.eq_concatenation_of_level ten] at unary
    exact absurd unary Bool.false_ne_true
  have last (deep : 14 < entry.level) : entry.level = 15 :=
    Nat.le_antisymm (Nat.le_of_lt_succ entry.operator.kind.level_lt) deep
  refine ⟨⟨⟨_, ordinary.parse_of_tops tight tops, ?_⟩, ?_, tight, ?_⟩, uncut, started,
    fun deep => ended (last deep), fun leaf => ?_⟩
  · rw [Tree.bare, Tree.bare, Tree.bareAll, Tree.bareAll, same]
    rfl
  · exact (Dialect.balanced_singleton plain).append spells.balanced
  · refine Dialect.cut?_of_joint Dialect.isToken_separator ?_ plain [] rfl rfl spells.undivided
    rintro member
    obtain rfl := List.mem_singleton.mp member
    exact absurd cutter (by decide)
  · exact absurd entry.operator.kind.level_lt (Nat.not_lt_of_le (Nat.le_of_eq leaf.symm))

/-- The token of a square behind the text of its operand makes the text of the operation. -/
theorem writes_behind {entry : OperatorEntry} {operand : Tree} {text : List Char}
    (registered : entry ∈ Library.operators base) (square : entry.operator.kind = .square)
    (accepted : entry.operator.accepts [operand] = true) (writes : engine.Writes operand text)
    (deeper : 14 ≤ operand.level) :
    engine.Writes (.operation entry.operator [operand]) (text ++ ['²']) := by
  have ordinary := legible.toOrdinary
  have level : entry.level = 14 := congrArg OperatorKind.level square
  have unary : entry.operator.kind.isUnary = true := by rw [square]; rfl
  have suffix : entry.operator.kind.isSuffix = true := by rw [square]; rfl
  have token : entry.operator.kind.token = ['²'] := by rw [square]; rfl
  obtain ⟨back, read, same⟩ := writes.reads
  obtain ⟨c, rest, spelled, visible⟩ := writes.tight.first
  have head : (text ++ ['²']).head? = text.head? := by rw [spelled]; rfl
  have takes : entry.Takes engine (text ++ ['²']) [back] := by
    refine ⟨⟨[text], ?_, .cons read .nil⟩, ?_⟩
    · rw [ordinary.dialect, OperatorEntry.fragments?_of_behind registered unary suffix, token]
      exact ⟨text, rfl, rfl⟩
    · exact (Operator.accepts_of_alike (.cons (Tree.alike_of_bare same) .nil)).trans accepted
  have uncut : Uncut entry.level (text ++ ['²']) := fun operator between below _ signless => by
    have all : ∀ pair ∈ Library.levels, '²' ∉ pair.2 := by decide
    rw [level] at below
    rw [head] at signless
    refine Dialect.cut?_of_joint operator.isToken (all _ (Library.mem_levels between)) (by decide) text
      (writes.balanced.scan 0) ?_ rfl
    exact writes.uncut operator between (Nat.lt_of_lt_of_le below deeper) (fun _ ten => by omega) signless
  have tight : Text.Tight (text ++ ['²']) :=
    ⟨⟨c, rest ++ ['²'], by rw [spelled]; rfl, visible⟩, ⟨text, '²', rfl, by decide⟩⟩
  have started : (text ++ ['²']).head? ≠ some '!' :=
    head ▸ writes.unnegated (Nat.lt_of_lt_of_le (by decide) deeper)
  have tops := ordinary.tops_of_uncut legible.nameless registered takes uncut (fun _ => started) (fun last => by omega)
    fun ten => by omega
  refine ⟨⟨⟨_, ordinary.parse_of_tops tight tops, ?_⟩, ?_, tight, ?_⟩, uncut, fun _ => started,
    fun deep => absurd deep (Nat.not_lt_of_le (Nat.le_of_eq level)), fun leaf => ?_⟩
  · rw [Tree.bare, Tree.bare, Tree.bareAll, Tree.bareAll, same]
    rfl
  · exact writes.balanced.append (Dialect.balanced_singleton (by decide))
  · exact Dialect.cut?_of_joint Dialect.isToken_separator (by decide) (by decide) text
      (writes.balanced.scan 0) writes.undivided rfl
  · exact absurd entry.operator.kind.level_lt (Nat.not_lt_of_le (Nat.le_of_eq leaf.symm))

end Legible

end Engine

end Reckoner
