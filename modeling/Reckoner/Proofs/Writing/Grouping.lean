import Reckoner.Proofs.Writing.RoundTrip

/-! # Grouped operands are read one by one

Whatever can be read is a whole, so it is read again in a block, in a row of blocks with a token between
them, and among the arguments of a call, and each time it makes the part that it makes on its own. Of the
operators with one token it is the first which accepts the blocks that takes the row.
-/

namespace Reckoner

namespace Engine

variable {engine : Engine} {base : Tag} {texts : List (List Char)} {trees : List Tree}

namespace Ordinary

variable (ordinary : engine.Ordinary base)

include ordinary

/-- Whatever can be read is read again in a block. -/
theorem parse_blockText_of_parse {text : List Char} {tree : Tree} (read : engine.parse text = .ok tree) :
    engine.parse (engine.blockText text) = .ok (.block tree) :=
  ordinary.parse_blockText (ordinary.balanced_of_parse read) read

/-- Blocks can stand in the row of any operator. -/
theorem row_of_blocks (read : engine.ReadsAll texts trees) (level : Nat) :
    engine.Row level (texts.map engine.blockText) := by
  rw [Row, List.forall_mem_map]
  intro text member
  obtain ⟨tree, _, success⟩ := exists_operand_of_readsAll read member
  refine ⟨.block tree, joins_of_solid ?_ ⟨_, ordinary.parse_blockText_of_parse success, rfl⟩ level⟩
  rw [blockText, ordinary.dialect]
  exact Text.solid_of_balanced (List.forall_mem_nil _) (ordinary.balanced_of_parse success)

/-- Blocks around texts that are read as expressions are read as blocks. -/
theorem readsAll_blocks (read : engine.ReadsAll texts trees) :
    engine.ReadsAll (texts.map engine.blockText) (trees.map Tree.block) := by
  rw [ReadsAll, List.forall₂_map_left_iff, List.forall₂_map_right_iff]
  exact read.imp fun _ _ => ordinary.parse_blockText_of_parse

variable (nameless : engine.named? [] = none)

include nameless

/-- Blocks with a token between them are read by the first operator with this token that accepts
them. -/
theorem parse_rowText_of_blocks {before after : List OperatorEntry} {entry : OperatorEntry}
    (entries : engine.operators = before ++ entry :: after)
    (between : entry.operator.kind.isUnary = false) (read : engine.ReadsAll texts trees)
    (accepted : entry.operator.accepts (trees.map .block) = true)
    (first : ∀ other ∈ before, other.token = entry.token →
      other.operator.accepts (trees.map .block) = false) :
    engine.parse (rowText entry.token.toList (texts.map engine.blockText)) =
      .ok (.operation entry.operator (trees.map .block)) := by
  have registered := ordinary.mem_operators entries
  rw [ordinary.operators] at entries
  rw [Library.token_of_mem registered]
  refine ordinary.parse_rowText nameless registered between (ordinary.row_of_blocks read _)
    (ordinary.readsAll_blocks read) accepted fun ten other present nine => ?_
  refine first other ((Library.mem_before_iff entries).mpr ⟨present, by omega⟩) ?_
  rw [← String.toList_inj, Library.token_of_mem registered, Library.token_of_mem present,
    OperatorKind.eq_addition_of_level nine, OperatorKind.eq_concatenation_of_level ten]
  rfl

end Ordinary

/-- The reader puts grouped operands together: a text that can be read makes a block between
parentheses, an operand in a row of blocks, and an argument of a call. -/
theorem parse_grouped {now : DateTime} {items : List (String × Variable)}
    (identifiers : ∀ entry ∈ items, isIdentifier entry.1 = true) :
    let engine := withVariables base now items
    (∀ text tree, engine.parse text = .ok tree →
      engine.parse ('(' :: text ++ [')']) = .ok (.block tree)) ∧
    (∀ before entry after, engine.operators = before ++ entry :: after →
      entry.operator.kind.isUnary = false →
      ∀ texts trees, engine.ReadsAll texts trees → entry.operator.accepts (trees.map .block) = true →
      (∀ other ∈ before, other.token = entry.token →
        other.operator.accepts (trees.map .block) = false) →
      engine.parse (List.intercalate (' ' :: entry.token.toList ++ [' '])
          (texts.map fun text => '(' :: text ++ [')'])) =
        .ok (.operation entry.operator (trees.map .block))) ∧
    ∀ entry ∈ engine.functions.entries,
      ∀ texts trees, engine.ReadsAll texts trees → entry.item.accepts trees = true →
      engine.parse (entry.name.toList ++ '(' :: List.intercalate [',', ' '] texts ++ [')']) =
        .ok (.call entry.item trees) := by
  intro engine
  have ordinary : engine.Ordinary base := ordinary_withVariables identifiers
  have nameless : engine.named? [] = none := nameless_withVariables identifiers
  have blocks : engine.blockText = fun text => '(' :: text ++ [')'] := by
    funext text
    rw [blockText, ordinary.dialect]
    rfl
  refine ⟨fun text tree read => ?_, ?_, fun entry member texts trees read accepted => ?_⟩
  · exact congrFun blocks text ▸ ordinary.parse_blockText_of_parse read
  · intro before entry after entries between texts trees read accepted first
    exact blocks ▸ ordinary.parse_rowText_of_blocks nameless entries between read accepted first
  · obtain ⟨identifier, found⟩ := function_withVariables member
    have wholes : ∀ text ∈ texts, Text.Whole text := by
      intro text member
      obtain ⟨tree, _, success⟩ := exists_operand_of_readsAll read member
      exact ordinary.whole_of_parse nameless success
    have called := ordinary.parse_callText identifier found wholes read accepted
    rwa [callText, ordinary.dialect] at called

/-- A parenthesis in quotes closes nothing, and a row that no sum accepts is a concatenation. -/
theorem parse_grouped_of_quotes :
    let engine := withVariables 0 ⟨Date.epoch, Time.midnight⟩ [("x", ⟨40, "/x", .long⟩)]
    ∃ sum quoted, engine.parse "x + 1".toList = .ok sum ∧ engine.parse "\"a)\"".toList = .ok quoted ∧
      engine.parse "(x + 1)".toList = .ok (.block sum) ∧
      engine.parse "(\"a)\") + (\"a)\")".toList =
        .ok (.operation ⟨12, .concatenation⟩ [.block quoted, .block quoted]) ∧
      engine.parse "Max(x + 1, x + 1)".toList = .ok (.call ⟨30, .greatest⟩ [sum, sum]) := by
  intro engine
  have sums : (engine.parse "x + 1".toList).toOption.map Tree.kind = some .long := by decide +kernel
  have quotes : (engine.parse "\"a)\"".toList).toOption.map Tree.kind = some .string := by
    decide +kernel
  obtain ⟨sum, readSum, long⟩ := Option.map_eq_some_iff.mp sums
  obtain ⟨quoted, readQuoted, string⟩ := Option.map_eq_some_iff.mp quotes
  rw [Except.toOption_eq_some_iff] at readSum readQuoted
  obtain ⟨block, row, call⟩ := @parse_grouped 0 ⟨Date.epoch, Time.midnight⟩ [("x", ⟨40, "/x", .long⟩)]
    (by decide)
  have kinds : Tree.kinds ([quoted, quoted].map .block) = [.string, .string] := by
    simp only [Tree.kinds_eq_map, List.map_cons, List.map_nil, Tree.kind, string]
  refine ⟨sum, quoted, readSum, readQuoted, block _ _ readSum, ?_, ?_⟩
  · refine row ((Library.operators 0).take 10) ⟨"+", 12, .concatenation⟩
      ((Library.operators 0).drop 11) rfl rfl ["\"a)\"".toList, "\"a)\"".toList] [quoted, quoted]
      (.cons readQuoted (.cons readQuoted .nil)) ?_ ?_
    · rw [Operator.accepts, kinds]
      decide
    · simp only [Operator.accepts, kinds]
      decide
  · have names : (engine.functions.entries.map fun entry => (entry.name, entry.item))[12]? =
        some ("Max", ⟨30, .greatest⟩) := by decide +kernel
    obtain ⟨entry, member, same⟩ := List.mem_map.mp (List.mem_of_getElem? names)
    obtain ⟨name, item⟩ := Prod.mk.inj same
    have accepted : entry.item.accepts [sum, sum] = true := by
      rw [item, Function.accepts, Tree.kinds_eq_map, List.map_cons, List.map_cons, List.map_nil, long]
      rfl
    have read := call entry member ["x + 1".toList, "x + 1".toList] [sum, sum]
      (.cons readSum (.cons readSum .nil)) accepted
    rwa [name, item] at read

end Engine

end Reckoner
