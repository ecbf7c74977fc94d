import Reckoner.Proofs.Writing.Atom
import Reckoner.Proofs.Writing.Operation

/-! # Expressions read back

An expression whose operators respect their order is written, and what is written reads as the same
expression, blocks aside. The induction over the expression carries that the text of every part shows no
operator that binds looser than the one on top of it.
-/

namespace Reckoner

namespace Library

variable {base : Tag} {entry other : OperatorEntry}

/-- The entries stand at their levels. -/
theorem getElem?_level (registered : entry ∈ operators base) :
    (operators base)[entry.level]? = some entry := by
  obtain ⟨place, here⟩ := List.mem_iff_getElem?.mp registered
  have level : (List.range 16)[place]? = some entry.level := by
    rw [← map_level_operators base, List.getElem?_map, here, Option.map_some]
  obtain ⟨small, same⟩ := List.getElem?_eq_some_iff.mp level
  rw [List.getElem_range] at same
  rw [← same, here]

/-- Operators below a level come first among those registered. -/
theorem mem_take_level (registered : other ∈ operators base) (below : other.level < entry.level) :
    other ∈ (operators base).take entry.level := by
  refine List.mem_of_getElem? (i := other.level) ?_
  rw [List.getElem?_take_of_lt below, getElem?_level registered]

/-- An operator of the library is registered under its own token. -/
theorem token_of_mem (registered : entry ∈ operators base) :
    entry.token.toList = entry.operator.kind.token := by
  revert entry
  simp only [operators, List.forall_mem_cons]
  refine ⟨?_, ?_, ?_, ?_, ?_, ?_, ?_, ?_, ?_, ?_, ?_, ?_, ?_, ?_, ?_, ?_, List.forall_mem_nil _⟩
  all_goals
    dsimp only [OperatorKind.token]
    decide

end Library

namespace Engine

variable {engine : Engine} {base : Tag}

namespace Ordinary

variable (ordinary : engine.Ordinary base)

include ordinary

/-- An operator that is registered at a place has an entry at this level. -/
theorem exists_entry {operator : Operator} {place : Nat}
    (registered : engine.positionOf? operator = some place) :
    ∃ entry ∈ Library.operators base, entry.operator = operator ∧ entry.level = place := by
  obtain ⟨small, same, _⟩ := List.findIdx?_eq_some_iff_getElem.mp registered
  have member := List.getElem_mem small
  generalize engine.operators[place] = entry at same member
  rw [beq_iff_eq] at same
  rw [ordinary.operators] at member
  refine ⟨entry, member, same, ?_⟩
  have position := ordinary.positionOf?_eq member
  rw [same, registered] at position
  exact (Option.some.inj position).symm

/-- A registered operator is found with its token. -/
theorem tokenOf?_eq {entry : OperatorEntry} (registered : entry ∈ Library.operators base) :
    engine.tokenOf? entry.operator = some entry.token := by
  rw [tokenOf?, ordinary.operators, Option.map_eq_some_iff]
  cases found : (Library.operators base).find? fun other => other.operator == entry.operator with
  | none => exact absurd (beq_self_eq_true _) (List.find?_eq_none.mp found entry registered)
  | some other =>
    have same := List.find?_some found
    rw [beq_iff_eq] at same
    have level : other.level = entry.level := by rw [OperatorEntry.level, same]
    have equal := Library.eq_of_level_eq (List.mem_of_find?_eq_some found) registered level
    exact ⟨other, rfl, congrArg OperatorEntry.token equal⟩

/-- Operators of the levels of additions and concatenations share their token. -/
theorem tokenOf?_eq_of_sum {entry other : OperatorEntry} (registered : entry ∈ Library.operators base)
    (registeredToo : other ∈ Library.operators base) (nine : entry.level = 9)
    (ten : other.level = 10) : engine.tokenOf? other.operator = engine.tokenOf? entry.operator := by
  have token : other.token.toList = entry.token.toList := by
    rw [Library.token_of_mem registeredToo, Library.token_of_mem registered,
      OperatorKind.eq_addition_of_level nine, OperatorKind.eq_concatenation_of_level ten]
    rfl
  rw [ordinary.tokenOf?_eq registeredToo, ordinary.tokenOf?_eq registered, String.toList_inj.mp token]

/-- Operators that respect their order bind. -/
theorem binds_of_ranks {operator : Operator} {operands : List Tree} {place : Nat}
    (ranks : engine.Ranks operator operands place)
    (plain : ∀ kind value, .literal kind value ∈ operands → value.hasSignedYear = false) :
    ∃ entry ∈ Library.operators base, entry.operator = operator ∧ Binds base entry operands := by
  obtain ⟨entry, registered, rfl, rfl⟩ := ordinary.exists_entry ranks.registered
  have below : ∀ operand ∈ operands,
      entry.level < operand.level ∧ (entry.level = 9 → operand.level ≠ 10) := by
    intro operand member
    cases operand with
    | operation inner others =>
      obtain ⟨later, place, below, apart⟩ := ranks.below inner others member
      obtain ⟨other, registeredToo, rfl, rfl⟩ := ordinary.exists_entry place
      refine ⟨below, fun nine ten => apart ?_⟩
      exact ordinary.tokenOf?_eq_of_sum registered registeredToo nine ten
    | literal kind value =>
      rw [Tree.level_literal (plain kind value member)]
      exact ⟨entry.operator.kind.level_lt, fun _ => by decide⟩
    | _ => exact ⟨entry.operator.kind.level_lt, fun _ => Nat.ne_of_beq_eq_false rfl⟩
  have named := ordinary.tokenOf?_eq registered
  refine ⟨entry, registered, rfl, ranks.accepted, fun ten other present nine => ?_,
    fun operand member => .inl (below operand member).1, fun operand member => (below operand member).2⟩
  refine ranks.first other ?_ (named.trans ?_)
  · rw [ordinary.operators]
    exact Library.mem_take_level present (by omega)
  · rw [← named, ← ordinary.tokenOf?_eq present]
    exact ordinary.tokenOf?_eq_of_sum present registered nine ten

end Ordinary

/-- Operands that can be written one by one are written one after the other. -/
theorem exists_formatOperands (isOneOfMany : Bool) (good : List Char → Tree → Prop)
    {operands : List Tree} (each : ∀ operand ∈ operands, ∃ text, engine.format operand = .ok text ∧
      good (engine.operandText isOneOfMany operand text) operand) :
    ∃ texts, engine.formatOperands isOneOfMany operands = .ok texts ∧
      List.Forall₂ good texts operands := by
  induction operands with
  | nil => exact ⟨[], by rw [formatOperands], .nil⟩
  | cons operand rest ih =>
    obtain ⟨⟨text, written, here⟩, others⟩ := List.forall_mem_cons.mp each
    obtain ⟨texts, writtenToo, all⟩ := ih others
    refine ⟨_ :: texts, ?_, .cons here all⟩
    rw [formatOperands, written, writtenToo]
    rfl

/-- Arguments that can be written one by one are written one after the other. -/
theorem exists_formatAll (good : List Char → Tree → Prop) {operands : List Tree}
    (each : ∀ operand ∈ operands, ∃ text, engine.format operand = .ok text ∧ good text operand) :
    ∃ texts, engine.formatAll operands = .ok texts ∧ List.Forall₂ good texts operands := by
  induction operands with
  | nil => exact ⟨[], by rw [formatAll], .nil⟩
  | cons operand rest ih =>
    obtain ⟨⟨text, written, here⟩, others⟩ := List.forall_mem_cons.mp each
    obtain ⟨texts, writtenToo, all⟩ := ih others
    refine ⟨text :: texts, ?_, .cons here all⟩
    rw [formatAll, written, writtenToo]
    rfl

/-- An operation is written with the token of its operator. -/
theorem format_operation {operator : Operator} {token : String} {operands : List Tree}
    {texts : List (List Char)} (named : engine.tokenOf? operator = some token)
    (written : engine.formatOperands (!operator.kind.isUnary) operands = .ok texts) :
    engine.format (.operation operator operands) =
      .ok (operationText operator.kind token.toList texts) := by
  rw [format, named]
  simp only [written]
  rfl

/-- A negation in a row of operands is written in a block. -/
theorem Ordinary.joins_of_negation (ordinary : engine.Ordinary base) {tree : Tree} {text : List Char}
    (writes : engine.Writes tree text) (negated : tree.level = 2)
    (written : engine.format tree = .ok text) (level : Nat) :
    engine.Joins level tree (engine.operandText true tree text) := by
  obtain ⟨operator, operands, rfl, sort⟩ := Tree.exists_operation_of_level negated
  rw [format] at written
  split at written
  · next token named =>
    obtain ⟨entry, found, rfl⟩ := Option.map_eq_some_iff.mp named
    have registered : entry ∈ Library.operators base := by
      rw [← ordinary.operators]
      exact List.mem_of_find?_eq_some found
    have same := List.find?_some found
    rw [beq_iff_eq] at same
    have spelled : entry.token.toList = ['!'] := by
      rw [Library.token_of_mem registered, same, sort]
      rfl
    obtain ⟨texts, _, made⟩ := Except.bind_eq_ok_iff.mp written
    obtain rfl := Except.ok.inj made
    have begins : engine.beginsWithToken (operationText operator.kind entry.token.toList texts) = true := by
      rw [ordinary.beginsWithToken_iff, spelled, sort]
      exact .inl rfl
    obtain ⟨solid, reads⟩ := ordinary.solid_blockText writes.toSpells
    rw [operandText, begins, needsBlock]
    exact joins_of_solid solid reads level
  · cases written

namespace Legible

variable (legible : engine.Legible base)

include legible

/-- A single operand is written between the token and the end of the text. -/
theorem writes_single {entry : OperatorEntry} {operand : Tree} {text : List Char}
    (registered : entry ∈ Library.operators base) (unary : entry.operator.kind.isUnary = true)
    (accepted : entry.operator.accepts [operand] = true) (deeper : entry.level ≤ operand.level)
    (writes : engine.Writes operand text) :
    engine.Writes (.operation entry.operator [operand])
      (operationText entry.operator.kind entry.operator.kind.token [text]) := by
  rw [operationText, if_pos unary, List.flatten_singleton]
  cases sort : entry.operator.kind with
  | not =>
    have level : entry.level = 2 := congrArg OperatorKind.level sort
    have all : ∀ pair ∈ Library.levels, pair.1 < 2 → '!' ∉ pair.2 := by decide
    refine legible.writes_before (c := '!') registered unary (by rw [sort]; rfl) (by rw [sort]; rfl)
      accepted writes.toSpells (fun operator between below _ => ?_) (fun above => by omega)
      fun last => by omega
    refine ⟨all _ (Library.mem_levels between) (level ▸ below), ?_⟩
    exact writes.uncut operator between (Nat.lt_of_lt_of_le below deeper) (fun nine => by omega)
      fun eleven => by omega
  | square =>
    have level : entry.level = 14 := congrArg OperatorKind.level sort
    exact legible.writes_behind registered sort accepted writes (level ▸ deeper)
  | negation =>
    have level : entry.level = 15 := congrArg OperatorKind.level sort
    have all : ∀ pair ∈ Library.levels, pair.1 ≠ 11 → '-' ∉ pair.2 := by decide
    refine legible.writes_before (c := '-') registered unary (by rw [sort]; rfl) (by rw [sort]; rfl)
      accepted writes.toSpells (fun operator between below other => ?_) (fun _ => by decide)
      fun _ => writes.unsquared (by omega)
    have signless : operator.level ≠ 11 := fun eleven => other eleven rfl
    refine ⟨all _ (Library.mem_levels between) signless, ?_⟩
    exact writes.uncut operator between (Nat.lt_of_lt_of_le below deeper) (fun _ ten => by omega)
      fun eleven => absurd eleven signless
  | _ => rw [sort] at unary; exact absurd unary Bool.false_ne_true

/-- Operators that bind are written around the texts of their operands. -/
theorem writes_operation {entry : OperatorEntry} {operands : List Tree}
    (registered : entry ∈ Library.operators base) (binds : Binds base entry operands)
    (parts : ∀ operand ∈ operands, ∃ text, engine.format operand = .ok text ∧
      engine.Writes operand text) :
    ∃ text, engine.format (.operation entry.operator operands) = .ok text ∧
      engine.Writes (.operation entry.operator operands) text := by
  have ordinary := legible.toOrdinary
  have named := ordinary.tokenOf?_eq registered
  have spelled := Library.token_of_mem registered
  cases unary : entry.operator.kind.isUnary with
  | true =>
    have one := OperatorKind.length_of_accepts unary binds.accepted
    rw [Tree.kinds_eq_map, List.length_map, List.length_eq_one_iff] at one
    obtain ⟨operand, rfl⟩ := one
    obtain ⟨texts, written, all⟩ := exists_formatOperands false
      (fun text operand => engine.Writes operand text) fun operand member => by
        obtain ⟨text, written, writes⟩ := parts operand member
        exact ⟨text, written, ordinary.writes_operandText writes⟩
    obtain ⟨text, none, writes, nothing, rfl⟩ := List.forall₂_cons_right_iff.mp all
    obtain rfl := List.forall₂_nil_right_iff.mp nothing
    have deeper : entry.level ≤ operand.level := by
      rcases binds.deeper operand (List.mem_singleton_self operand) with below | ⟨_, same⟩ | ⟨row, _⟩
      · exact Nat.le_of_lt below
      · exact Nat.le_of_eq same
      · exact absurd unary (Bool.eq_false_iff.mp row)
    refine ⟨_, format_operation named (by rw [unary]; exact written), ?_⟩
    rw [spelled]
    exact legible.writes_single registered unary binds.accepted deeper writes
  | false =>
    obtain ⟨texts, written, all⟩ := exists_formatOperands true
      (fun text operand => engine.Joins entry.level operand text) fun operand member => by
        obtain ⟨text, written, writes⟩ := parts operand member
        refine ⟨text, written, ?_⟩
        rcases binds.deeper operand member with below | ⟨single, _⟩ | ⟨_, negated⟩
        · exact ordinary.joins_operandText writes below (binds.apart operand member)
        · exact absurd single (Bool.eq_false_iff.mp unary)
        · exact ordinary.joins_of_negation writes negated written entry.level
    have visible : Text.Tight entry.operator.kind.token :=
      Text.tight_of_visible entry.operator.kind.isToken.spelled fun c member =>
        Library.isBlank_of_mem (Library.mem_marks (Library.mem_tokenChars c member))
    have row : operationText entry.operator.kind entry.token.toList texts =
        rowText entry.operator.kind.token texts := by
      rw [operationText, unary, spelled, visible.trim_eq]
      rfl
    refine ⟨_, format_operation named (by rw [unary]; exact written), ?_⟩
    rw [row]
    exact legible.writes_between registered unary binds.accepted binds.unadded all

/-- Every expression with regular parts is written, and what is written for it reads as the same
expression, blocks aside. -/
theorem exists_writes_of_regular {tree : Tree}
    (regular : ∀ part, Tree.Within part tree → engine.Regular base part) :
    ∃ text, engine.format tree = .ok text ∧ engine.Writes tree text := by
  have ordinary := legible.toOrdinary
  induction tree with
  | literal kind value => exact regular _ .self
  | constant item =>
    obtain ⟨name, named⟩ := Option.isSome_iff_exists.mp (regular _ .self)
    obtain ⟨identifier, found⟩ := legible.constant named
    refine ⟨name.toList, ?_, legible.writes_name identifier found⟩
    rw [format, named]
  | input item =>
    obtain ⟨name, named⟩ := Option.isSome_iff_exists.mp (regular _ .self)
    obtain ⟨identifier, found⟩ := legible.input named
    refine ⟨name.toList, ?_, legible.writes_name identifier found⟩
    rw [format, named]
  | operation operator operands ih =>
    obtain ⟨entry, registered, rfl, binds⟩ := regular _ .self
    exact legible.writes_operation registered binds fun operand member =>
      ih operand member fun part within => regular part (within.trans (.operand member))
  | call function operands ih =>
    obtain ⟨known, accepted⟩ := regular _ .self
    obtain ⟨name, named⟩ := Option.isSome_iff_exists.mp known
    obtain ⟨texts, written, all⟩ := exists_formatAll (fun text operand => engine.Writes operand text)
      fun operand member =>
        ih operand member fun part within => regular part (within.trans (.argument member))
    refine ⟨engine.callText name.toList texts, ?_, ?_⟩
    · rw [format, named]
      simp only [written]
      rfl
    · exact legible.writes_call named accepted (all.imp fun _ _ writes => writes.toSpells)
  | block inner ih =>
    obtain ⟨text, written, writes⟩ := ih fun part within => regular part (within.trans .inside)
    obtain ⟨solid, back, read, same⟩ := ordinary.solid_blockText writes.toSpells
    refine ⟨engine.blockText text, ?_, writes_of_solid solid ⟨back, read, ?_⟩⟩
    · rw [format, written]
      rfl
    · rw [same, Tree.bare]

/-- Every expression whose parts respect the order of operators is written, and what is written for it
reads as the same expression, blocks aside. -/
theorem exists_writes {tree : Tree} (orderly : ∀ part, Tree.Within part tree → engine.Orderly part) :
    ∃ text, engine.format tree = .ok text ∧ engine.Writes tree text := by
  refine legible.exists_writes_of_regular fun part within => ?_
  have here := orderly part within
  cases part with
  | literal kind value =>
    obtain ⟨rfl, plain⟩ := here
    exact legible.writes_literal plain
  | constant | input | call | block => exact here
  | operation operator operands =>
    obtain ⟨place, ranks⟩ := here
    refine legible.toOrdinary.binds_of_ranks ranks fun kind value member => ?_
    exact Value.hasSignedYear_of_isPlain (orderly _ (.trans (.operand member) within)).2

end Legible

/-- What is written for an expression whose parts respect the order of operators reads as the same
expression, blocks aside. -/
theorem parse_format {base : Tag} {now : DateTime} {items : List (String × Variable)} {tree : Tree}
    (identifiers : ∀ entry ∈ items, isIdentifier entry.1 = true)
    (clear : ∀ entry ∈ items, nameKey entry.1.toList ∉ reservedKeys)
    (orderly : ∀ part, Tree.Within part tree → (withVariables base now items).Orderly part) :
    ∃ text back, (withVariables base now items).format tree = .ok text ∧
      (withVariables base now items).parse text = .ok back ∧ back.bare = tree.bare := by
  obtain ⟨text, written, writes⟩ := (legible_withVariables identifiers clear).exists_writes orderly
  obtain ⟨back, read, same⟩ := writes.reads
  exact ⟨text, back, written, read, same⟩

/-- A negation among the operands of a sum is written in a block and reads as a negation again. -/
theorem parse_format_of_negation :
    ∃ text back,
      (withVariables 1 ⟨Date.epoch, Time.midnight⟩ [("x", ⟨0, "/x", .long⟩)]).format
          (.operation ⟨12, .addition⟩ [.input ⟨0, "/x", .long⟩,
            .operation ⟨18, .negation⟩ [.input ⟨0, "/x", .long⟩]]) = .ok text ∧
        (withVariables 1 ⟨Date.epoch, Time.midnight⟩ [("x", ⟨0, "/x", .long⟩)]).parse text =
          .ok back ∧
        back.bare = (Tree.operation ⟨12, .addition⟩ [.input ⟨0, "/x", .long⟩,
          .operation ⟨18, .negation⟩ [.input ⟨0, "/x", .long⟩]]).bare := by
  refine parse_format (by decide) (by decide) fun part within => ?_
  have input : (withVariables 1 ⟨Date.epoch, Time.midnight⟩ [("x", ⟨0, "/x", .long⟩)]).Orderly
      (.input ⟨0, "/x", .long⟩) := rfl
  have negation : (withVariables 1 ⟨Date.epoch, Time.midnight⟩ [("x", ⟨0, "/x", .long⟩)]).Orderly
      (.operation ⟨18, .negation⟩ [.input ⟨0, "/x", .long⟩]) :=
    ⟨15, by decide, by decide, by decide, fun _ _ member => absurd (List.mem_singleton.mp member) nofun⟩
  have sum : (withVariables 1 ⟨Date.epoch, Time.midnight⟩ [("x", ⟨0, "/x", .long⟩)]).Orderly
      (.operation ⟨12, .addition⟩ [.input ⟨0, "/x", .long⟩,
        .operation ⟨18, .negation⟩ [.input ⟨0, "/x", .long⟩]]) := by
    refine ⟨9, by decide, by decide, by decide, fun inner others member => ?_⟩
    rcases List.mem_pair.mp member with same | same
    · cases same
    · obtain ⟨rfl, rfl⟩ := Tree.operation.inj same
      exact ⟨15, by decide, by decide, by decide⟩
  have all := List.forall_mem_cons.mpr ⟨sum, List.forall_mem_cons.mpr ⟨input,
    List.forall_mem_cons.mpr ⟨negation, List.forall_mem_singleton.mpr input⟩⟩⟩
  exact all part within.mem_parts

end Engine

end Reckoner
