import Mathlib.Data.List.Flatten
import Reckoner.Proofs.Folding.Final
import Reckoner.Proofs.Folding.Reduction

/-! # Reduction and the order of variables

Folding moves constants and nothing else. Whatever a rule makes of its operands, the variables in it are
some of those of the operands, each at most as often as before and in the same order; and since constants
have no variables, it does not matter where they are moved to. Blocks have no influence, so the same is
true of a whole reduction.
-/

namespace Reckoner

open Reckoner.Tree

namespace Tree

theorem inputs_literal (kind : Kind) (value : Value) : (Tree.literal kind value).inputs = [] := by
  rw [inputs]

theorem inputsOfAll_singleton (tree : Tree) : inputsOfAll [tree] = tree.inputs := by
  rw [inputsOfAll, inputsOfAll, List.append_nil]

theorem inputsOfAll_append (left right : List Tree) :
    inputsOfAll (left ++ right) = inputsOfAll left ++ inputsOfAll right := by
  simp only [inputsOfAll_eq_flatMap, List.flatMap_append]

/-- Fewer expressions in the same order have fewer variables in the same order. -/
theorem inputsOfAll_sublist {left right : List Tree} (fewer : left.Sublist right) :
    (inputsOfAll left).Sublist (inputsOfAll right) := by
  rw [inputsOfAll_eq_flatMap, inputsOfAll_eq_flatMap]
  exact fewer.flatMap inputs

/-- Changes that take variables away but neither add nor move any do so over a whole list. -/
theorem inputsOfAll_map_sublist {change : Tree → Tree} {trees : List Tree}
    (fewer : ∀ tree ∈ trees, (change tree).inputs.Sublist tree.inputs) :
    (inputsOfAll (trees.map change)).Sublist (inputsOfAll trees) := by
  rw [inputsOfAll_eq_flatMap, inputsOfAll_eq_flatMap, List.flatMap_map]
  exact List.Sublist.flatMap_right trees fewer

theorem inputsOfAll_map {change : Tree → Tree} {trees : List Tree}
    (same : ∀ tree ∈ trees, (change tree).inputs = tree.inputs) :
    inputsOfAll (trees.map change) = inputsOfAll trees := by
  rw [inputsOfAll_eq_flatMap, inputsOfAll_eq_flatMap, List.flatMap_map]
  exact List.flatMap_congr same

/-- The variables of what remains of the operands stood in one of them. -/
theorem inputs_of_remains {operands : List Tree} {part : Tree} (remains : part.Remains operands) :
    part.inputs.Sublist (inputsOfAll operands) := by
  rcases remains with member | ⟨kind, value, rfl⟩
  · have alone := inputsOfAll_sublist (List.singleton_sublist.mpr member)
    rwa [inputsOfAll_singleton] at alone
  · rw [inputs_literal]
    exact List.nil_sublist _

end Tree

namespace Folded

def inputs : Folded → List Variable
  | tree result => result.inputs
  | operands parts => inputsOfAll parts

theorem inputs_literal (kind : Kind) (value : Value) : (literal kind value).inputs = [] :=
  Tree.inputs_literal kind value

/-- The variables of what is folded are some of those of the operands, in the same order. -/
def Ordered (operands : List Tree) (folded? : Option Folded) : Prop :=
  ∀ folded, folded? = some folded → folded.inputs.Sublist (inputsOfAll operands)

variable {operands : List Tree}

theorem Ordered.literal {kind : Kind} {value : Value} : Ordered operands (some (literal kind value)) := by
  rintro _ ⟨⟩
  rw [inputs_literal]
  exact List.nil_sublist _

theorem Ordered.none : Ordered operands none := fun _ fold => by cases fold

/-- Of two attempts to fold, the first that comes to something decides on the variables. -/
theorem Ordered.or {first second : Option Folded} (ordered : Ordered operands first)
    (orderedToo : Ordered operands second) : Ordered operands (first.or second) := by
  intro folded fold
  rcases Option.or_eq_some_iff.mp fold with fold | ⟨_, fold⟩
  · exact ordered folded fold
  · exact orderedToo folded fold

/-- An operator over operands has the variables of the operands or fewer, folded or not. -/
theorem Ordered.applied {folded? : Option Folded} (ordered : Ordered operands folded?) (operator : Operator) :
    (applied operator operands folded?).inputs.Sublist (inputsOfAll operands) := by
  rcases folded? with _ | ⟨result | parts⟩
  · rw [Folded.applied, Tree.inputs]
  · exact ordered _ rfl
  · rw [Folded.applied, Tree.inputs]
    exact ordered _ rfl

end Folded

open Folded

section Rules

variable {operands : List Tree}

theorem foldConstant?_ordered (kind : Kind) (apply : List Operand → Except EvalError Value) :
    Ordered operands (foldConstant? kind apply operands) := by
  intro folded fold
  obtain ⟨_, value, _, rfl⟩ := foldConstant?_eq_some_iff.mp fold
  exact Ordered.literal _ rfl

theorem foldConnective?_ordered (dominant : Bool) : Ordered operands (foldConnective? dominant operands) := by
  refine (foldConstant?_ordered _ _).or ?_
  split
  · exact .literal
  · exact .none

/-- Collecting constants in one place moves no variable. -/
theorem inputsOfAll_collectAt {term : Tree} (constant : term.inputs = []) :
    (inputsOfAll (collectAt term operands)).Sublist (inputsOfAll operands) := by
  induction operands with
  | nil => exact List.Sublist.refl _
  | cons operand rest ih =>
    rw [collectAt, inputsOfAll]
    split
    · rw [inputsOfAll, constant, List.nil_append]
      exact (inputsOfAll_sublist List.filter_sublist).trans (List.sublist_append_right _ _)
    · rw [inputsOfAll]
      exact ih.append_left _

theorem foldAddition?_ordered : Ordered operands (foldAddition? operands) := by
  intro folded fold
  rcases exists_term_of_foldAddition? fold with ⟨kind, value, rfl⟩ | ⟨kind, term, _, _, _, rfl⟩
  · exact Ordered.literal _ rfl
  · exact inputsOfAll_collectAt (Tree.inputs_literal kind term)

/-- The opposite of a term has no variables but those of the term. -/
theorem inputs_opposite? {negation : Tag} {term opposite : Tree} (opposed : opposite? negation term = some opposite) :
    opposite.inputs.Sublist term.inputs := by
  unfold opposite? at opposed
  split at opposed
  · obtain ⟨minus, _, rfl⟩ := Option.map_eq_some_iff.mp opposed
    rw [Tree.inputs_literal]
    exact List.nil_sublist _
  · obtain rfl := Option.some.inj opposed
    rw [Tree.inputs, inputsOfAll_singleton]

theorem inputsOfAll_opposites {negation : Tag} {opposites : List Tree}
    (opposed : operands.mapM (opposite? negation) = some opposites) :
    (inputsOfAll opposites).Sublist (inputsOfAll operands) := by
  induction operands generalizing opposites with
  | nil =>
    obtain rfl := Option.some.inj opposed
    exact List.Sublist.refl _
  | cons term rest ih =>
    obtain ⟨opposite, others, here, later, rfl⟩ := exists_of_mapM_cons opposed
    rw [inputsOfAll, inputsOfAll]
    exact (inputs_opposite? here).append (ih later)

theorem foldSubtraction?_ordered (addition negation : Tag) :
    Ordered operands (foldSubtraction? addition negation operands) := by
  refine (foldConstant?_ordered _ _).or fun folded fold => ?_
  split at fold
  · cases fold
  · next first rest =>
    split at fold
    · obtain ⟨opposites, opposed, fold⟩ := Option.bind_eq_some_iff.mp fold
      obtain rfl := Option.some.inj fold
      refine (foldAddition?_ordered.applied _).trans ?_
      rw [inputsOfAll, inputsOfAll]
      exact (inputsOfAll_opposites opposed).append_left _
    · cases fold

theorem foldMultiplication?_ordered : Ordered operands (foldMultiplication? operands) := by
  refine (foldConstant?_ordered _ _).or ?_
  split
  · exact .literal
  intro folded fold
  dsimp only at fold
  split at fold
  · cases fold
  obtain ⟨factor, _, fold⟩ := Option.bind_eq_some_iff.mp fold
  split at fold
  · cases fold
  -- a collected factor in front has no variables, and the other factors are some of the operands
  have fewer (keeps : Bool) (kind : Kind) :
      (inputsOfAll (if keeps then .literal kind factor :: operands.filter fun operand => operand.literalValue?.isNone
        else operands.filter fun operand => operand.literalValue?.isNone)).Sublist (inputsOfAll operands) := by
    have others : (inputsOfAll (operands.filter fun operand => operand.literalValue?.isNone)).Sublist
        (inputsOfAll operands) := inputsOfAll_sublist List.filter_sublist
    cases keeps with
    | true => rwa [if_pos rfl, inputsOfAll, Tree.inputs_literal, List.nil_append]
    | false => rwa [if_neg Bool.false_ne_true]
  split at fold
  · next single sole =>
    obtain rfl := Option.some.inj fold
    have here : (inputsOfAll [single]).Sublist (inputsOfAll operands) := sole ▸ fewer _ _
    rwa [inputsOfAll_singleton] at here
  · obtain rfl := Option.some.inj fold
    exact fewer _ _

/-- The divisors as one expression have no variables but their own. -/
theorem inputs_divisor (multiplication : Tag) (divisors : List Tree) :
    (divisor multiplication divisors).inputs.Sublist (inputsOfAll divisors) := by
  unfold divisor
  split
  · rw [inputsOfAll_singleton]
  · exact foldMultiplication?_ordered.applied _

theorem foldDivision?_ordered (multiplication : Tag) : Ordered operands (foldDivision? multiplication operands) := by
  rcases operands with _ | ⟨numerator, divisors⟩
  · exact .none
  have pair : (inputsOfAll [numerator, divisor multiplication divisors]).Sublist
      (inputsOfAll (numerator :: divisors)) := by
    rw [inputsOfAll, inputsOfAll_singleton, inputsOfAll]
    exact (inputs_divisor multiplication divisors).append_left _
  rw [foldDivision?]
  split
  · exact .literal
  dsimp only
  split
  · exact .literal
  refine Ordered.or (fun folded fold => (foldConstant?_ordered _ _ folded fold).trans pair) ?_
  split
  · exact .none
  · rintro _ ⟨⟩
    exact pair

/-- Joining neighbouring constants moves no variable. -/
theorem inputsOfAll_joinRuns {run : Option String} {joined : List Tree}
    (join : joinRuns? run operands = some (some joined)) :
    (inputsOfAll joined).Sublist (inputsOfAll operands) := by
  have runs (run : Option String) : inputsOfAll (joinedRun run) = [] := by
    cases run with
    | none => rfl
    | some text => rw [joinedRun, inputsOfAll, ofValue, Tree.inputs_literal, inputsOfAll, List.append_nil]
  induction operands generalizing run joined with
  | nil =>
    obtain rfl := Option.some.inj (Option.some.inj join)
    rw [runs]
    exact List.nil_sublist _
  | cons operand rest ih =>
    rw [inputsOfAll]
    rcases joinRuns?_cons join with ⟨_, _, _, _, join⟩ | ⟨others, later, rfl⟩
    · exact (ih join).trans (List.sublist_append_right _ _)
    · rw [inputsOfAll_append, runs, List.nil_append, inputsOfAll]
      exact (ih later).append_left _

theorem foldConcatenation?_ordered : Ordered operands (foldConcatenation? operands) := by
  rw [foldConcatenation?]
  split
  · exact .none
  · exact .literal
  · next joined join =>
    have fewer := inputsOfAll_joinRuns join
    split
    · exact .none
    · split
      · next single =>
        rintro _ ⟨⟩
        rwa [inputsOfAll_singleton] at fewer
      · rintro _ ⟨⟩
        exact fewer

/-- No operator reorders, repeats or invents variables when it folds its operands. -/
theorem OperatorKind.fold?_ordered (operator : OperatorKind) : Ordered operands (operator.fold? operands) := by
  cases operator with
  | or | and => exact foldConnective?_ordered _
  | addition => exact foldAddition?_ordered
  | concatenation => exact foldConcatenation?_ordered
  | subtraction addition negation => exact foldSubtraction?_ordered addition negation
  | multiplication => exact foldMultiplication?_ordered
  | division multiplication => exact foldDivision?_ordered multiplication
  | not | comparison _ | square | negation => exact foldConstant?_ordered _ _

/-- Nor does any function. -/
theorem FunctionKind.fold?_ordered (function : FunctionKind) : Ordered operands (function.fold? operands) := by
  intro folded fold
  obtain ⟨result, rfl, _, remains⟩ := FunctionKind.exists_of_fold? fold
  exact inputs_of_remains remains

end Rules

namespace Engine

variable (engine : Engine)

/-- Blocks do not matter to the variables. -/
theorem inputs_grouped (parent : Operator) (isLeading : Bool) (operand : Tree) :
    (engine.grouped parent isLeading operand).inputs = operand.inputs := by
  rcases engine.grouped_eq_or parent isLeading operand with block | same
  · rw [block, Tree.inputs]
  · rw [same]

theorem inputs_regroup (operator : Operator) (operands : List Tree) :
    (engine.regroup operator operands).inputs = inputsOfAll operands := by
  cases operands with
  | nil => rw [regroup, Tree.inputs]
  | cons first rest =>
    rw [regroup, Tree.inputs, inputsOfAll, inputsOfAll, inputs_grouped,
      inputsOfAll_map fun operand _ => engine.inputs_grouped operator false operand]

/-- Blocks that are put in leave the variables as they are. -/
theorem inputs_regroupDeep (tree : Tree) : (engine.regroupDeep tree).inputs = tree.inputs := by
  induction tree with
  | literal | constant | input => rw [regroupDeep]
  | operation operator operands ih => rw [regroupDeep, inputs_regroup, regroupAll_eq_map, inputsOfAll_map ih, Tree.inputs]
  | call function operands ih => rw [regroupDeep, Tree.inputs, regroupAll_eq_map, inputsOfAll_map ih, Tree.inputs]
  | block inner ih => rw [regroupDeep, Tree.inputs, ih, Tree.inputs]

/-- Folding an operator adds and moves no variables. -/
theorem inputs_foldOperation (operator : Operator) (operands : List Tree) :
    (engine.foldOperation operator operands).inputs.Sublist (inputsOfAll operands) := by
  have ordered : Ordered operands (operator.kind.fold? operands) := operator.kind.fold?_ordered
  unfold foldOperation
  split
  · next result fold =>
    rw [inputs_regroupDeep]
    exact ordered _ fold
  · next folded fold =>
    rw [inputs_regroupDeep, Tree.inputs]
    exact ordered _ fold
  · rw [inputs_regroup]

/-- Folding a function adds and moves no variables. -/
theorem inputs_foldCall (function : Function) (operands : List Tree) :
    (engine.foldCall function operands).inputs.Sublist (inputsOfAll operands) := by
  have ordered : Ordered operands (function.kind.fold? operands) := function.kind.fold?_ordered
  unfold foldCall
  split
  · next result fold =>
    rw [inputs_regroupDeep]
    exact ordered _ fold
  · next folded fold =>
    rw [inputs_regroupDeep, Tree.inputs]
    exact ordered _ fold
  · rw [Tree.inputs]

/-- Reduction neither duplicates nor reorders nor invents variables: from left to right, those of the reduced
expression are some of those of the expression, in their order. -/
theorem inputs_reduce_sublist (tree : Tree) : (engine.reduce tree).inputs.Sublist tree.inputs := by
  induction tree with
  | literal | constant | input => rw [reduce]
  | operation operator operands ih =>
    rw [reduce, reduceAll_eq_map, Tree.inputs]
    exact (engine.inputs_foldOperation operator _).trans (inputsOfAll_map_sublist ih)
  | call function operands ih =>
    rw [reduce, reduceAll_eq_map, Tree.inputs]
    exact (engine.inputs_foldCall function _).trans (inputsOfAll_map_sublist ih)
  | block inner ih =>
    rw [reduce, Tree.inputs]
    exact ih

end Engine

end Reckoner
