import Reckoner.Proofs.Folding.Final

/-! # Reduction is idempotent

A reduced expression is in normal form: no rule applies to it, and its blocks are those that it needs.
Reducing it once more drops the blocks, folds nothing and puts the same blocks back. Expressions with
quotients are left out, and so are those with products of doubles, whose constant factors may round to a zero
that makes the product vanish the second time.
-/

namespace Reckoner

open Reckoner.Tree

/-- The part is no quotient, and if it is a product, it is declared a long. -/
def Tree.isSteady (tree : Tree) : Bool :=
  match tree with
  | .operation ⟨_, .division _⟩ _ => false
  | .operation ⟨_, .multiplication⟩ _ => tree.kind == .long
  | _ => true

/-- Whether a sum is folded does not depend on how its terms are written. -/
theorem foldAddition?_map_eq_none {change : Tree → Tree} (alike : ∀ tree, Alike (change tree) tree)
    {operands : List Tree} (ends : foldAddition? operands = none) : foldAddition? (operands.map change) = none := by
  have parts : List.Forall₂ Alike (operands.map change) operands :=
    forall₂_map_self fun operand _ => alike operand
  have values : literalValue? ∘ change = literalValue? := funext fun tree => literalValue?_of_alike (alike tree)
  have value (tree : Tree) : (change tree).literalValue? = tree.literalValue? := congrFun values tree
  have sorts (trees : List Tree) : kinds (trees.map change) = kinds trees := by
    rw [kinds_eq_map, kinds_eq_map, List.map_map]
    exact List.map_congr_left fun tree _ => (alike tree).kind
  have whole (kind : Kind) : foldConstant? kind addOperands (operands.map change) =
      foldConstant? kind addOperands operands := by
    rw [foldConstant?, foldConstant?, areConstant_of_alike parts, known, known, operandsFor_of_alike parts]
  rw [foldAddition?] at ends ⊢
  dsimp only at ends ⊢
  rw [Option.or_eq_none_iff] at ends ⊢
  rw [sorts, whole, List.filterMap_map, values, List.filter_map, List.all_map, List.length_map, sorts]
  simp only [Function.comp_def, value, (alike _).isConstant]
  refine ⟨ends.1, ?_⟩
  have rest := ends.2
  split at rest
  · cases rest
  · next mixed =>
    rw [if_neg mixed]
    split at rest
    · next few => rw [if_pos few]
    · next several =>
      rw [if_neg several]
      exact Option.map_eq_none_iff.mpr (Option.map_eq_none_iff.mp rest)

namespace Engine

variable {engine : Engine} {operands : List Tree}

/-- Reduction leaves the expression as it is, and it has all blocks that it needs. -/
structure Normal (engine : Engine) (tree : Tree) : Prop where
  reduced : engine.reduce tree = tree
  grouped : engine.regroupDeep tree = tree

theorem normal_literal (kind : Kind) (value : Value) : engine.Normal (.literal kind value) :=
  ⟨by rw [reduce], by rw [regroupDeep]⟩

section Blocks

variable {parent : Operator} {isLeading : Bool} {operand : Tree}

/-- An operand needs no second block. -/
theorem grouped_grouped : engine.grouped parent isLeading (engine.grouped parent isLeading operand) =
    engine.grouped parent isLeading operand := by
  rcases engine.grouped_eq_or parent isLeading operand with block | same
  · rw [block, grouped]
    exact fun _ _ other => by cases other
  · rw [same, same]

/-- A block around an operand is lost in reduction. -/
theorem reduce_grouped : engine.reduce (engine.grouped parent isLeading operand) = engine.reduce operand := by
  rcases engine.grouped_eq_or parent isLeading operand with block | same
  · rw [block, reduce]
  · rw [same]

theorem regroupDeep_grouped (fixed : engine.regroupDeep operand = operand) :
    engine.regroupDeep (engine.grouped parent isLeading operand) = engine.grouped parent isLeading operand := by
  rcases engine.grouped_eq_or parent isLeading operand with block | same
  · rw [block, regroupDeep, fixed]
  · rw [same, fixed]

/-- Blocks are put in once. -/
theorem regroupDeep_regroup (operator : Operator) (fixed : ∀ operand ∈ operands, engine.regroupDeep operand = operand) :
    engine.regroupDeep (engine.regroup operator operands) = engine.regroup operator operands := by
  cases operands with
  | nil => rfl
  | cons first rest =>
    obtain ⟨here, others⟩ := List.forall_mem_cons.mp fixed
    rw [regroup, regroupDeep, regroupAll, regroupAll_eq_map, List.map_map, regroup, regroupDeep_grouped here,
      grouped_grouped, List.map_map]
    refine congrArg (fun rest => Tree.operation operator (_ :: rest)) (List.map_congr_left fun operand member => ?_)
    rw [Function.comp, Function.comp, regroupDeep_grouped (others operand member), grouped_grouped]

/-- Reduction does not see the blocks of an operation. -/
theorem reduce_regroup (engine : Engine) (operator : Operator) (operands : List Tree) :
    engine.reduce (engine.regroup operator operands) = engine.reduce (.operation operator operands) := by
  cases operands with
  | nil => rfl
  | cons first rest =>
    rw [regroup, reduce, reduce, reduceAll_eq_map, reduceAll_eq_map, List.map_cons, List.map_cons, reduce_grouped,
      List.map_map]
    exact congrArg (fun rest => engine.foldOperation operator (_ :: rest))
      (List.map_congr_left fun operand _ => reduce_grouped)

end Blocks

section Folding

theorem map_reduce_eq (normal : ∀ operand ∈ operands, engine.Normal operand) : operands.map engine.reduce = operands :=
  (List.map_congr_left fun operand member => (normal operand member).reduced).trans operands.map_id

theorem map_regroupDeep_eq (normal : ∀ operand ∈ operands, engine.Normal operand) :
    operands.map engine.regroupDeep = operands :=
  (List.map_congr_left fun operand member => (normal operand member).grouped).trans operands.map_id

/-- An operation over normal operands is normal once it has its blocks if no rule applies to it. -/
theorem normal_regroup {operator : Operator} (normal : ∀ operand ∈ operands, engine.Normal operand)
    (ends : operator.kind.fold? operands = none) : engine.Normal (engine.regroup operator operands) where
  reduced := by
    rw [reduce_regroup, reduce, reduceAll_eq_map, map_reduce_eq normal, foldOperation, ends]
  grouped := regroupDeep_regroup operator fun operand member => (normal operand member).grouped

/-- A call of which nothing folds is normal over normal operands. -/
theorem normal_call {function : Function} (normal : ∀ operand ∈ operands, engine.Normal operand)
    (ends : function.kind.fold? operands = none) : engine.Normal (.call function operands) where
  reduced := by
    rw [reduce, reduceAll_eq_map, map_reduce_eq normal, foldCall, ends]
  grouped := by
    rw [regroupDeep, regroupAll_eq_map, map_regroupDeep_eq normal]

/-- What remains of normal operands is normal. -/
theorem normal_of_remains (normal : ∀ operand ∈ operands, engine.Normal operand) {part : Tree}
    (remains : part.Remains operands) : engine.Normal part := by
  rcases remains with member | ⟨kind, value, rfl⟩
  · exact normal part member
  · exact normal_literal kind value

/-- What a rule makes of normal operands is normal once it has its blocks if the rule ends with it. -/
theorem result_normal {operator : Operator} {folded : Folded} (normal : ∀ operand ∈ operands, engine.Normal operand)
    (final : folded.Final operator.kind.fold? operands) :
    engine.Normal (engine.regroupDeep (folded.result (.operation operator))) := by
  cases folded with
  | tree result =>
    have result := normal_of_remains normal final
    rwa [Folded.result, result.grouped]
  | operands parts =>
    obtain ⟨remain, ends⟩ := final
    have parts := fun part member => normal_of_remains normal (remain part member)
    rw [Folded.result, regroupDeep, regroupAll_eq_map, map_regroupDeep_eq parts]
    exact normal_regroup parts ends

/-- Folding an operator over normal operands makes a normal expression, if what it folds to is normal. -/
theorem foldOperation_normal {operator : Operator} (normal : ∀ operand ∈ operands, engine.Normal operand)
    (folds : ∀ folded, operator.kind.fold? operands = some folded →
      engine.Normal (engine.regroupDeep (folded.result (.operation operator)))) :
    engine.Normal (engine.foldOperation operator operands) := by
  unfold foldOperation
  split
  · next fold => exact folds _ fold
  · next fold => exact folds _ fold
  · next ends => exact normal_regroup normal ends

/-- Folding a function over normal operands makes a normal expression. -/
theorem foldCall_normal {function : Function} (normal : ∀ operand ∈ operands, engine.Normal operand) :
    engine.Normal (engine.foldCall function operands) := by
  unfold foldCall
  split
  · next result fold =>
    obtain ⟨_, same, _, remains⟩ := FunctionKind.exists_of_fold? fold
    obtain rfl := Folded.tree.inj same
    have result := normal_of_remains normal remains
    rwa [result.grouped]
  · next fold =>
    obtain ⟨_, same, _⟩ := FunctionKind.exists_of_fold? fold
    cases same
  · next ends => exact normal_call normal ends

end Folding

section Differences

variable {addition negation : Tag} {terms : List Tree}

/-- The opposite of a normal term is normal once it has its blocks. -/
theorem opposite?_normal {term opposite : Tree} (normal : engine.Normal term)
    (opposed : opposite? negation term = some opposite) : engine.Normal (engine.regroupDeep opposite) := by
  unfold opposite? at opposed
  split at opposed
  · obtain ⟨value, _, rfl⟩ := Option.map_eq_some_iff.mp opposed
    rw [regroupDeep]
    exact normal_literal term.kind value
  · next unknown =>
    obtain rfl := Option.some.inj opposed
    rw [regroupDeep, regroupAll_eq_map, List.map_singleton, normal.grouped]
    refine normal_regroup (List.forall_mem_singleton.mpr normal) ?_
    rw [Option.eq_none_iff_forall_ne_some]
    intro folded fold
    obtain ⟨constant, _, success, _⟩ := foldConstant?_eq_some_iff.mp fold
    obtain ⟨value, here, _⟩ := Except.bind_eq_ok_iff.mp success
    rw [literalValue?_eq_some_iff.mpr ⟨areConstant_iff.mp constant term (List.mem_singleton_self _), here⟩] at unknown
    cases unknown

/-- A folded sum is normal once it has its blocks if its terms are. -/
theorem sum_normal (normal : ∀ term ∈ terms, engine.Normal (engine.regroupDeep term)) :
    engine.Normal (engine.regroupDeep (Folded.applied ⟨addition, .addition⟩ terms (foldAddition? terms))) := by
  have remaining {part : Tree} (remains : part.Remains terms) : engine.Normal (engine.regroupDeep part) := by
    rcases remains with member | ⟨kind, value, rfl⟩
    · exact normal part member
    · rw [regroupDeep]
      exact normal_literal kind value
  have unfolded {parts : List Tree} (ends : foldAddition? parts = none)
      (normal : ∀ part ∈ parts, engine.Normal (engine.regroupDeep part)) :
      engine.Normal (engine.regroupDeep (.operation ⟨addition, .addition⟩ parts)) := by
    rw [regroupDeep, regroupAll_eq_map]
    exact normal_regroup (List.forall_mem_map.mpr normal) (foldAddition?_map_eq_none engine.regroupDeep_alike ends)
  cases fold : foldAddition? terms with
  | none => exact unfolded fold normal
  | some folded =>
    cases folded with
    | tree result => exact remaining (foldAddition?_final fold)
    | operands parts =>
      obtain ⟨remain, ends⟩ := foldAddition?_final fold
      exact unfolded ends fun part member => remaining (remain part member)

/-- What a difference of normal operands is folded to is normal once it has its blocks, even a sum. -/
theorem difference_normal {again : List Tree → Tree} {folded : Folded}
    (normal : ∀ operand ∈ operands, engine.Normal operand)
    (fold : foldSubtraction? addition negation operands = some folded) :
    engine.Normal (engine.regroupDeep (folded.result again)) := by
  cases whole : foldConstant? (Kind.promoted (kinds operands)) subtractOperands operands with
  | some constant =>
    obtain ⟨_, value, _, rfl⟩ := foldConstant?_eq_some_iff.mp whole
    rw [foldSubtraction?.eq_def, whole, Option.some_or] at fold
    obtain rfl := Option.some.inj fold
    rw [Folded.result_literal, regroupDeep]
    exact normal_literal _ value
  | none =>
    obtain ⟨first, rest, opposites, rfl, _, opposed, rfl⟩ := exists_opposites whole fold
    obtain ⟨here, others⟩ := List.forall_mem_cons.mp normal
    -- The opposites are new operations over the old operands, so they have not been given their blocks yet.
    refine sum_normal (List.forall_mem_cons.mpr ⟨here.grouped.symm ▸ here, fun opposite member => ?_⟩)
    obtain ⟨term, inside, found⟩ := exists_of_forall₂ (forall₂_of_mapM opposed) member
    exact opposite?_normal (others term inside) found

end Differences

section Kinds

/-- Folding keeps the kind of an operation, or makes it null where it was a long. -/
theorem foldOperation_weakens {operator : Operator} (accepted : operator.accepts operands = true) :
    (engine.foldOperation operator operands).kind.Weakens (Tree.operation operator operands).kind := by
  have folds {folded : Folded} (fold : operator.kind.fold? operands = some folded) :
      (folded.result (.operation operator)).kind.Weakens (Tree.operation operator operands).kind := by
    cases arithmetic : operator.kind.isArithmetic with
    | true => exact weakens_of_fold? arithmetic accepted fold
    | false =>
      refine (fold?_keeps none accepted (fun other => ?_) folded fold).kind
      exact absurd (arithmetic.symm.trans other) Bool.false_ne_true
  unfold foldOperation
  split
  · next fold => exact Kind.Weakens.trans (.inl (engine.regroupDeep_alike _).kind) (folds fold)
  · next fold => exact Kind.Weakens.trans (.inl (engine.regroupDeep_alike _).kind) (folds fold)
  · exact .inl (engine.regroup_alike operator operands).kind

/-- A folded call has the kind of the call. -/
theorem foldCall_kind (function : Function) (operands : List Tree) :
    (engine.foldCall function operands).kind = (Tree.call function operands).kind := by
  unfold foldCall
  split
  · next fold =>
    obtain ⟨_, same, sort, _⟩ := FunctionKind.exists_of_fold? fold
    obtain rfl := Folded.tree.inj same
    rw [(engine.regroupDeep_alike _).kind, sort, Tree.kind]
  · next fold =>
    obtain ⟨_, same, _⟩ := FunctionKind.exists_of_fold? fold
    cases same
  · rfl

/-- Reduction keeps the kind of a typed expression, or makes it null where it was a long. -/
theorem reduce_weakens {tree : Tree} (typed : tree.Typed) : (engine.reduce tree).kind.Weakens tree.kind := by
  induction typed with
  | literal | constant | input =>
    rw [reduce]
    exact .refl _
  | @operation operator operands _ accepted ih =>
    have weaker := kinds_map_weaken ih
    rw [reduce, reduceAll_eq_map]
    refine (foldOperation_weakens (OperatorKind.accepts_of_weakens weaker accepted)).trans (.inl ?_)
    rw [Tree.kind, Tree.kind, OperatorKind.resultKind_of_weakens weaker]
  | @call function operands _ accepted ih =>
    rw [reduce, reduceAll_eq_map, foldCall_kind, Tree.kind, Tree.kind]
    exact FunctionKind.resultKind_of_weakens (kinds_map_weaken ih) accepted
  | @block inner _ ih =>
    rw [reduce, Tree.kind]
    exact ih

end Kinds

/-- A typed expression of steady parts is reduced to normal form. -/
theorem reduce_normal {tree : Tree} (typed : tree.Typed) (steady : tree.All (·.isSteady = true)) :
    engine.Normal (engine.reduce tree) := by
  induction typed with
  | literal | constant | input =>
    rw [reduce]
    exact ⟨by rw [reduce], by rw [regroupDeep]⟩
  | @operation operator operands typed _ ih =>
    have normal : ∀ operand ∈ operands.map engine.reduce, engine.Normal operand :=
      List.forall_mem_map.mpr fun operand member => ih operand member (steady.within (.operand member))
    have here := steady.self
    rw [reduce, reduceAll_eq_map]
    obtain ⟨tag, kind⟩ := operator
    cases kind with
    | subtraction addition negation => exact foldOperation_normal normal fun _ => difference_normal normal
    | division _ => cases here
    | multiplication =>
      -- The factors may be null where they were longs, but none of them has become a double.
      have weaker := kinds_map_weaken fun operand member => @reduce_weakens engine _ (typed operand member)
      have long := eq_of_beq here
      rw [Tree.kind, OperatorKind.resultKind, ← Kind.Weakens.promoted weaker] at long
      exact foldOperation_normal normal fun _ fold => result_normal normal (foldMultiplication?_final long fold)
    | _ =>
      refine foldOperation_normal normal fun _ fold => result_normal normal (OperatorKind.fold?_final ?_ ?_ ?_ fold)
      · exact fun _ _ other => by cases other
      · exact fun _ other => by cases other
      · exact fun other => by cases other
  | @call function operands _ _ ih =>
    rw [reduce, reduceAll_eq_map]
    exact foldCall_normal (List.forall_mem_map.mpr fun operand member =>
      ih operand member (steady.within (.argument member)))
  | @block inner _ ih =>
    rw [reduce]
    exact ih (steady.within .inside)

/-- Reducing a reduced expression changes nothing, if what was read holds no quotients and no products in
doubles. -/
theorem reduce_reduce {text : List Char} {tree : Tree} (constants : engine.ConstantsFit)
    (read : engine.parse text = .ok tree) (steady : ∀ part : Tree, part.Within tree → part.isSteady = true) :
    engine.reduce (engine.reduce tree) = engine.reduce tree :=
  (reduce_normal (typed_of_parse constants read) steady).reduced

theorem reduce_reduce_of_difference :
    let engine := (standard 0 ⟨Date.epoch, Time.midnight⟩).addVariable "x" ⟨40, "/x", .long⟩
    ∃ tree, engine.parse "1 - x - 2 * (3 * x) - 2 * 3".toList = .ok tree ∧
      engine.reduce (engine.reduce tree) = engine.reduce tree := by
  intro engine
  have checks : (engine.parse "1 - x - 2 * (3 * x) - 2 * 3".toList).toOption.map (fun tree =>
      tree.parts.all isSteady) = some true := by decide +kernel
  obtain ⟨tree, read, steady⟩ := Option.map_eq_some_iff.mp checks
  have read := Except.toOption_eq_some_iff.mp read
  have constants : engine.ConstantsFit := constantsFit_standard 0 ⟨Date.epoch, Time.midnight⟩
  exact ⟨tree, read, reduce_reduce constants read
    fun part within => List.all_eq_true.mp steady part within.mem_parts⟩

end Engine

end Reckoner
