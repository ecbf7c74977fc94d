import Reckoner.Proofs.Folding.Reduction

/-! # Reduction of constants

A constant expression that has a value is reduced to a literal. Only a named constant, the time and a few
functions over these are left as they are, since nothing folds them.
-/

namespace Reckoner

open Reckoner.Tree

namespace Tree

/-- The parts of a constant expression are constant. -/
theorem isConstant_of_within {part whole : Tree} (within : Within part whole)
    (constant : whole.isConstant = true) : part.isConstant = true := by
  induction within with
  | self => exact constant
  | @child whole inner member _ ih =>
    cases whole with
    | literal | constant | input => exact absurd member List.not_mem_nil
    | operation | call =>
      rw [isConstant, areConstant_iff] at constant
      exact ih (constant inner member)
    | block =>
      rw [isConstant] at constant
      exact ih (List.mem_singleton.mp member ▸ constant)

/-- Nothing folds the part unless it folds one of its operands: it is a named constant, the time or a
function that folds literals only. -/
def resists : Tree → Bool
  | constant _ => true
  | call function _ => match function.kind with
    | .isNull | .noZero | .hexadecimal | .squareRoot | .kindName | .now _ => true
    | _ => false
  | _ => false

/-- The expression is a literal, or nothing folds any part of it. -/
def Settled (tree : Tree) : Prop :=
  (∃ kind value, tree = .literal kind value) ∨ All (resists · = true) tree

end Tree

variable {operands : List Tree} {value : Value}

section Operators

variable (constant : areConstant operands = true)

include constant

/-- Constant texts are joined to their concatenation, or to null. -/
theorem joinRuns?_of_areConstant {done : String}
    (success : concatenateAfter done (known operands) = .ok value) :
    joinRuns? (some done) operands = some (if value.isNull then none else some [.ofValue value]) := by
  induction operands generalizing done with
  | nil =>
    obtain rfl := Except.ok.inj success
    rfl
  | cons operand rest ih =>
    rw [areConstant, Bool.and_eq_true] at constant
    rw [known, operandsFor, concatenateAfter] at success
    obtain ⟨first, evaluated, success⟩ := Except.bind_eq_ok_iff.mp success
    obtain ⟨text?, read, success⟩ := Except.bind_eq_ok_iff.mp success
    have literal := literalValue?_eq_some_iff.mpr ⟨constant.1, evaluated⟩
    rw [joinRuns?, literal]
    dsimp only
    rw [read]
    cases text? with
    | none =>
      obtain rfl := Except.ok.inj success
      rfl
    | some text => exact ih constant.2 success

/-- A concatenation of constants folds to its value. -/
theorem foldConcatenation?_eq_some (several : 2 ≤ operands.length)
    (success : concatenateAfter "" (known operands) = .ok value) :
    foldConcatenation? operands = some (.literal .string value) := by
  have joined : joinRuns? none operands = some (if value.isNull then none else some [.ofValue value]) := by
    -- The first operand starts the run that the others prolong.
    have whole := joinRuns?_of_areConstant constant success
    cases operands with
    | nil => exact absurd several (by decide)
    | cons operand rest =>
      rw [areConstant, Bool.and_eq_true] at constant
      rw [known, operandsFor, concatenateAfter] at success
      obtain ⟨first, evaluated, _⟩ := Except.bind_eq_ok_iff.mp success
      have literal := literalValue?_eq_some_iff.mpr ⟨constant.1, evaluated⟩
      rw [joinRuns?, literal] at whole ⊢
      exact whole
  have text : value = .null ∨ ∃ text, value = .string text := by
    have texts (done : String) (operands : List Operand)
        (success : concatenateAfter done operands = .ok value) :
        value = .null ∨ ∃ text, value = .string text := by
      induction operands generalizing done with
      | nil => exact .inr ⟨done, (Except.ok.inj success).symm⟩
      | cons operand rest ih =>
        rw [concatenateAfter] at success
        obtain ⟨_, _, success⟩ := Except.bind_eq_ok_iff.mp success
        obtain ⟨text?, _, success⟩ := Except.bind_eq_ok_iff.mp success
        cases text? with
        | none => exact .inl (Except.ok.inj success).symm
        | some text => exact ih _ success
    exact texts "" _ success
  rw [foldConcatenation?, joined]
  rcases text with rfl | ⟨text, rfl⟩
  · rfl
  · have other : ¬ [Tree.ofValue (.string text)].length = operands.length := by
      rw [List.length_singleton]
      omega
    exact if_neg other

/-- A quotient of constants folds to its value. -/
theorem foldDivision?_eq_some (multiplication : Tag)
    (numeric : Kind.double.takesAll (kinds operands) = true) (several : 2 ≤ operands.length)
    (success : divideOperands (known operands) = .ok value) :
    foldDivision? multiplication operands = some (.literal .double value) := by
  cases operands with
  | nil => exact absurd several (by decide)
  | cons numerator divisors =>
    have parts := constant
    rw [areConstant, Bool.and_eq_true] at parts
    rw [foldDivision?]
    dsimp only
    split
    · next nothing =>
      obtain rfl := Except.ok.inj ((divideOperands_of_nothing divisors nothing).symm.trans success)
      rfl
    · next something =>
      split
      · next void => rw [eq_nan_of_divisorIsVoid constant something void success]
      · have single := isConstant_divisor multiplication (Bool.and_eq_true_iff.mp numeric).2 parts.2
        have pair : areConstant [numerator, divisor multiplication divisors] = true := by
          rw [areConstant, areConstant, areConstant, parts.1, single, Bool.and_self, Bool.and_self]
        rw [foldConstant?_eq_some_iff.mpr
          ⟨pair, value, divideOperands_divisor multiplication parts.2 success, rfl⟩, Option.some_or]

/-- An operator that accepts constant operands folds to the value that it has. -/
theorem fold?_eq_literal {operator : Operator} (accepted : operator.accepts operands = true)
    (success : (Tree.operation operator operands).outcome none = .ok value) :
    ∃ kind, operator.kind.fold? operands = some (.literal kind value) := by
  rw [Tree.outcome] at success
  rw [Operator.accepts] at accepted
  have folds (kind : Kind) : foldConstant? kind operator.kind.apply operands = some (.literal kind value) :=
    foldConstant?_eq_some_iff.mpr ⟨constant, value, success, rfl⟩
  have several (long : decide (2 ≤ (kinds operands).length) = true) : 2 ≤ operands.length := by
    rwa [decide_eq_true_eq, kinds_eq_map, List.length_map] at long
  generalize operator.kind = form at success accepted folds
  cases form with
  | or | and => exact ⟨.boolean, congrArg (Option.or · _) (folds .boolean)⟩
  | not | comparison _ | square | negation => exact ⟨_, folds _⟩
  | addition | subtraction _ _ | multiplication =>
    exact ⟨_, congrArg (Option.or · _) (folds (Kind.promoted (kinds operands)))⟩
  | concatenation =>
    obtain ⟨long, _⟩ := Bool.and_eq_true_iff.mp accepted
    exact ⟨.string, foldConcatenation?_eq_some constant (several long) success⟩
  | division multiplication =>
    obtain ⟨long, numeric⟩ := Bool.and_eq_true_iff.mp accepted
    exact ⟨.double, foldDivision?_eq_some constant multiplication numeric (several long) success⟩

end Operators

/-- A search among constants ends at a value if the last of them is one. -/
theorem foldFirstValue?_eq_literal {kind : Kind} (constant : areConstant operands = true)
    (fallback : (operands.getLast?.bind literalValue?).any (!·.isNull) = true)
    (success : firstValue kind (known operands) = .ok value) :
    foldFirstValue? kind operands = some (.literal kind value) := by
  induction operands with
  | nil => exact absurd fallback Bool.false_ne_true
  | cons operand rest ih =>
    rw [areConstant, Bool.and_eq_true] at constant
    rw [known, operandsFor, firstValue] at success
    obtain ⟨first, evaluated, success⟩ := Except.bind_eq_ok_iff.mp success
    have literal := literalValue?_eq_some_iff.mpr ⟨constant.1, evaluated⟩
    rw [foldFirstValue?, literal]
    cases null : first.isNull with
    | true =>
      obtain rfl := (Value.isNull_iff first).mp null
      cases rest with
      | nil =>
        rw [List.getLast?_singleton, Option.bind_some, literal] at fallback
        exact absurd fallback Bool.false_ne_true
      | cons next others => exact ih constant.2 fallback success
    | false =>
      rw [null, if_neg Bool.false_ne_true] at success
      cases first with
      | null => cases null
      | _ => exact congrArg (Option.map (Folded.literal kind)) (Except.toOption_eq_some_iff.mpr success)

/-- A function accepts operands whose last one keeps the value that it was accepted with. -/
theorem FunctionKind.accepts_of_fallback {function : FunctionKind} {kinds : List Kind}
    {fallback? other? : Option Value} (kept : ∀ value, fallback? = some value → other? = some value)
    (accepted : function.accepts kinds fallback? = true) : function.accepts kinds other? = true := by
  cases function with
  | noNull =>
    rw [accepts, Bool.and_eq_true, Bool.and_eq_true, Option.any_eq_true] at accepted ⊢
    obtain ⟨⟨⟨value, last, present⟩, compatible⟩, join⟩ := accepted
    exact ⟨⟨⟨value, kept value last, present⟩, compatible⟩, join⟩
  | _ => exact accepted

namespace Engine

variable {engine : Engine}

/-- A function accepts changed operands of weaker kinds that keep the values of constants. -/
theorem accepts_map {function : Function} {change : Tree → Tree}
    (weakens : ∀ operand ∈ operands, (change operand).kind.Weakens operand.kind)
    (kept : ∀ operand ∈ operands, ∀ value, operand.literalValue? = some value →
      (change operand).literalValue? = some value)
    (accepted : function.accepts operands = true) : function.accepts (operands.map change) = true := by
  rw [Function.accepts] at accepted ⊢
  refine FunctionKind.accepts_of_fallback (fun value last => ?_)
    (FunctionKind.accepts_of_weakens (kinds_map_weaken weakens) accepted)
  obtain ⟨operand, place, known⟩ := Option.bind_eq_some_iff.mp last
  rw [List.getLast?_map, place]
  exact kept operand (List.mem_of_getLast? place) value known

/-- No block is put into a settled expression. -/
theorem regroupDeep_of_settled {tree : Tree} (settled : tree.Settled) : engine.regroupDeep tree = tree := by
  rcases settled with ⟨kind, value, rfl⟩ | resists
  · rw [regroupDeep]
  · induction tree with
    | literal | constant | input => rw [regroupDeep]
    | operation => exact absurd (resists _ .self) Bool.false_ne_true
    | block => exact absurd (resists _ .self) Bool.false_ne_true
    | call function operands ih =>
      rw [regroupDeep, regroupAll_eq_map]
      refine congrArg _ (List.map_congr_left fun operand member => ?_) |>.trans (by rw [List.map_id])
      exact ih operand member fun part within => resists part (within.trans (.argument member))

/-- What an operator over constants becomes if it has a value. -/
theorem foldOperation_eq_literal {operator : Operator} (constant : areConstant operands = true)
    (accepted : operator.accepts operands = true)
    (success : (Tree.operation operator operands).outcome none = .ok value) :
    ∃ kind, engine.foldOperation operator operands = .literal kind value := by
  obtain ⟨kind, fold⟩ := fold?_eq_literal constant accepted success
  exact ⟨kind, by simp only [foldOperation, fold, Folded.literal, regroupDeep]⟩

/-- What a function that folds any constants becomes if it has a value. -/
theorem foldCall_eq_literal {function : Function} {kind : Kind}
    (fold : function.kind.fold? operands = some (.literal kind value)) :
    (engine.foldCall function operands).Settled := by
  refine .inl ⟨kind, value, ?_⟩
  simp only [foldCall, fold, Folded.literal, regroupDeep]

/-- A function of one operand that folds literals only is left as it is over anything else. -/
theorem foldCall_settled_of_literal {function : Function} {operand : Tree} {kind : Kind}
    (folds : function.kind.fold? [operand] = foldLiteral? kind function.kind.apply [operand])
    (stays : (Tree.call function [operand]).resists = true)
    (settled : operand.Settled) (success : (Tree.call function [operand]).outcome none = .ok value) :
    (engine.foldCall function [operand]).Settled := by
  rcases settled with ⟨sort, content, rfl⟩ | resists
  · have fold : function.kind.fold? [.literal sort content] = some (.literal kind value) := by
      rw [Tree.outcome] at success
      rw [folds, foldLiteral?, foldConstant?_eq_some_iff]
      exact ⟨rfl, value, success, rfl⟩
    exact foldCall_eq_literal fold
  · have unfolded : foldLiteral? kind function.kind.apply [operand] = none := by
      unfold foldLiteral?
      split
      · next same =>
        obtain rfl := List.singleton_inj.mp same
        exact absurd (resists _ .self) Bool.false_ne_true
      · rfl
    rw [foldCall, folds, unfolded]
    refine .inr fun part within => ?_
    cases within with
    | self => exact stays
    | child member within =>
      obtain rfl := List.mem_singleton.mp member
      exact resists part within

/-- A conditional with constant operands becomes the branch that it chooses, or the value of it. -/
theorem foldCall_settled_of_conditional {function : Function} {test left right : Tree} {decision : Value}
    {truth : Option Bool} (chooses : function.kind = .conditional)
    (constant : areConstant [test, left, right] = true) (decided : test.outcome none = .ok decision)
    (read : decision.asTruth = .ok truth) (settled : (if truth = some true then left else right).Settled)
    (success : (Tree.call function [test, left, right]).outcome none = .ok value) :
    (engine.foldCall function [test, left, right]).Settled := by
  rw [Tree.outcome, chooses] at success
  obtain ⟨_, _, chosen, decidedToo, readToo, evaluated, coerced⟩ := exists_of_chooseOperand success
  obtain rfl := Except.ok.inj (decided.symm.trans decidedToo)
  obtain rfl := Except.ok.inj (read.symm.trans readToo)
  rw [areConstant, areConstant, areConstant, areConstant, Bool.and_true, Bool.and_eq_true,
    Bool.and_eq_true] at constant
  obtain ⟨tested, accepted, rejected⟩ := constant
  have evaluatedToo : (if truth = some true then left else right).outcome none = .ok chosen := by
    split at evaluated
    · next yes => rwa [if_pos yes]
    · next no => rwa [if_neg no]
  have known : (if truth = some true then left else right).isConstant = true := by
    split
    · exact accepted
    · exact rejected
  obtain ⟨branch, same⟩ : ∃ branch, (if truth = some true then left else right) = branch := ⟨_, rfl⟩
  rw [same] at settled evaluatedToo known
  have condition := literalValue?_eq_some_iff.mpr ⟨tested, decided⟩
  have literal := literalValue?_eq_some_iff.mpr ⟨known, evaluatedToo⟩
  have fold : function.kind.fold? [test, left, right] =
      if branch.kind = Kind.joined (kinds [left, right]) then some (.tree branch)
      else some (.literal (Kind.joined (kinds [left, right])) value) := by
    rw [chooses, FunctionKind.fold?, foldConditional?, condition]
    simp only [bind, Option.bind, Except.toOption_eq_some_iff.mpr read, same, literal]
    split
    · rfl
    · rw [show Value.coerce (Kind.joined (kinds [left, right])) chosen = .ok value from coerced]
      rfl
  split at fold
  · have tree : engine.foldCall function [test, left, right] = branch := by
      rw [foldCall, fold]
      exact regroupDeep_of_settled settled
    exact tree ▸ settled
  · exact foldCall_eq_literal fold

section Reduced

variable {function : Function} {reduced : List Tree}
  (reduces : List.Forall₂ (fun tree original => Reduces none tree original ∧
    ∀ value, original.outcome none = .ok value → tree.Settled) reduced operands)

include reduces

/-- A function of one operand that folds literals only becomes something settled if it has a value. -/
theorem foldCall_settled_of_single {kind : Kind} (single : operands.length = 1)
    (first : ∃ value, Operand.firstOutcome (operandsFor none operands) = .ok value)
    (stays : ∀ operands, (Tree.call function operands).resists = true)
    (folds : function.kind.fold? reduced = foldLiteral? kind function.kind.apply reduced)
    (success : (Tree.call function reduced).outcome none = .ok value) :
    (engine.foldCall function reduced).Settled := by
  obtain ⟨original, rfl⟩ := List.length_eq_one_iff.mp single
  obtain ⟨operand, _, ⟨_, settled⟩, nothing, rfl⟩ := List.forall₂_cons_right_iff.mp reduces
  obtain rfl := List.forall₂_nil_right_iff.mp nothing
  obtain ⟨content, evaluated⟩ := first
  exact foldCall_settled_of_literal folds (stays _) (settled content evaluated) success

/-- A conditional over reduced constants becomes something settled if it has a value. -/
theorem foldCall_settled_of_choice (chooses : function.kind = .conditional)
    (three : operands.length = 3) (known : areConstant reduced = true)
    (success : (Tree.call function operands).outcome none = .ok value)
    (successToo : (Tree.call function reduced).outcome none = .ok value) :
    (engine.foldCall function reduced).Settled := by
  obtain ⟨test, left, right, rfl⟩ := List.length_eq_three.mp three
  rcases reduces with _ | ⟨condition, _ | ⟨accepted, _ | ⟨rejected, nothing⟩⟩⟩
  obtain rfl := List.forall₂_nil_right_iff.mp nothing
  rw [Tree.outcome, chooses] at success
  obtain ⟨decision, truth, chosen, decided, read, evaluated, _⟩ := exists_of_chooseOperand success
  refine foldCall_settled_of_conditional chooses known (condition.1.operand.outcome decision decided) read
    ?_ successToo
  split at evaluated
  · next yes =>
    rw [if_pos yes]
    exact accepted.2 chosen evaluated
  · next no =>
    rw [if_neg no]
    exact rejected.2 chosen evaluated

/-- A function over reduced constants becomes something settled if it has a value. -/
theorem foldCall_settled (other : function.kind ≠ .evaluates) (constant : areConstant operands = true)
    (accepted : function.accepts operands = true) (acceptedToo : function.accepts reduced = true)
    (success : (Tree.call function operands).outcome none = .ok value) :
    (engine.foldCall function reduced).Settled := by
  have parts := reduces.imp fun _ _ both => both.1
  have known := areConstant_of_reduces parts constant
  have evaluates := (call_reduces parts other accepted).operand.outcome value success
  have folds (kind : Kind) : foldConstant? kind function.kind.apply reduced = some (.literal kind value) := by
    rw [Tree.outcome] at evaluates
    exact foldConstant?_eq_some_iff.mpr ⟨known, value, evaluates, rfl⟩
  have length : (kinds operands).length = operands.length := by rw [kinds_eq_map, List.length_map]
  rw [Function.accepts] at accepted acceptedToo
  cases form : function.kind with
  | conditional =>
    rw [form, FunctionKind.accepts, length, Bool.and_eq_true, Bool.and_eq_true, beq_iff_eq] at accepted
    exact foldCall_settled_of_choice reduces form accepted.1.1 known success evaluates
  | isNull | kindName =>
    rw [form, FunctionKind.accepts, length, beq_iff_eq] at accepted
    rw [Tree.outcome, form] at success
    obtain ⟨content, first, _⟩ := Except.bind_eq_ok_iff.mp success
    exact foldCall_settled_of_single reduces accepted ⟨content, first⟩
      (fun _ => by rw [resists, form]) (by rw [form]; rfl) evaluates
  | noZero | hexadecimal | squareRoot =>
    rw [form, FunctionKind.accepts, length, Bool.and_eq_true, beq_iff_eq] at accepted
    rw [Tree.outcome, form] at success
    obtain ⟨content, first, _⟩ := Except.bind_eq_ok_iff.mp success
    exact foldCall_settled_of_single reduces accepted.1 ⟨content, first⟩
      (fun _ => by rw [resists, form]) (by rw [form]; rfl) evaluates
  | noNull =>
    rw [form, FunctionKind.accepts, Bool.and_eq_true, Bool.and_eq_true] at acceptedToo
    rw [Tree.outcome, form, FunctionKind.apply, kinds_operandsFor] at evaluates
    have fold := foldFirstValue?_eq_literal known acceptedToo.1.1 evaluates
    exact foldCall_eq_literal ((congrArg (FunctionKind.fold? · reduced) form).trans fold)
  | absolute | round | least | greatest | length | upper | lower =>
    have fold := folds (function.kind.resultKind (kinds reduced))
    rw [form] at fold
    exact foldCall_eq_literal ((congrArg (FunctionKind.fold? · reduced) form).trans fold)
  | evaluates => exact absurd form other
  | now instant =>
    rw [form, FunctionKind.accepts, List.isEmpty_iff, kinds_eq_map, List.map_eq_nil_iff] at acceptedToo
    obtain rfl := acceptedToo
    have stays : engine.foldCall function [] = .call function [] := by rw [foldCall, form, FunctionKind.fold?]
    rw [stays]
    refine .inr fun part within => ?_
    cases within with
    | self => rw [resists, form]
    | child member => exact absurd member List.not_mem_nil

end Reduced

variable {tree : Tree}
  (unasked : ∀ function operands, Within (.call function operands) tree → function.kind ≠ .evaluates)

include unasked

/-- Constants are plain in all their parts if no function asks whether its operands evaluate. -/
theorem isPlain_of_isConstant (constant : tree.isConstant = true) {part : Tree} (within : Within part tree) :
    part.isPlain = true := by
  have here := isConstant_of_within within constant
  cases part with
  | operation => rw [isPlain, here, Bool.or_true]
  | call function operands =>
    rw [isPlain, decide_eq_true_eq]
    exact unasked function operands within
  | _ => rfl

/-- Reduction keeps the value of a constant. -/
theorem literalValue?_reduce (typed : tree.Typed) (known : tree.literalValue? = some value) :
    (engine.reduce tree).literalValue? = some value := by
  obtain ⟨constant, success⟩ := literalValue?_eq_some_iff.mp known
  obtain ⟨refines, constants⟩ : Reduces none (engine.reduce tree) tree :=
    reduce_reduces typed fun _ => isPlain_of_isConstant unasked constant
  exact literalValue?_eq_some_iff.mpr ⟨constants constant, refines.outcome value success⟩

/-- A constant that has a value is reduced to a literal or to something that nothing folds. -/
theorem reduce_settled (typed : tree.Typed) (constant : tree.isConstant = true)
    (success : tree.outcome none = .ok value) : (engine.reduce tree).Settled := by
  have plain (part : Tree) (within : Within part tree) := isPlain_of_isConstant unasked constant within
  induction typed generalizing value with
  | literal => rw [reduce]; exact .inl ⟨_, _, rfl⟩
  | constant =>
    rw [reduce]
    refine .inr fun part within => ?_
    cases within with
    | self => rfl
    | child member => exact absurd member List.not_mem_nil
  | input => rw [isConstant] at constant; cases constant
  | @operation operator operands typed accepted =>
    rw [isConstant, areConstant_iff] at constant
    have reduces : List.Forall₂ (Reduces none) (operands.map engine.reduce) operands :=
      forall₂_map_self fun operand member => reduce_reduces (typed operand member) fun part within =>
        plain part (within.trans (.operand member))
    obtain ⟨kind, literal⟩ := foldOperation_eq_literal
      (areConstant_of_reduces reduces (areConstant_iff.mpr constant)) (accepts_of_reduces reduces accepted)
      ((operation_reduces reduces accepted).operand.outcome value success)
    rw [reduce, reduceAll_eq_map]
    exact .inl ⟨kind, value, literal⟩
  | @call function operands typed accepted ih =>
    have other := unasked _ _ .self
    have deeper {operand : Tree} (member : operand ∈ operands) :
        ∀ function operands, Within (.call function operands) operand → function.kind ≠ .evaluates :=
      fun _ _ within => unasked _ _ (within.trans (.argument member))
    rw [isConstant, areConstant_iff] at constant
    have each (operand : Tree) (member : operand ∈ operands) :
        Reduces none (engine.reduce operand) operand :=
      reduce_reduces (typed operand member) fun part within => plain part (within.trans (.argument member))
    have acceptedToo : function.accepts (operands.map engine.reduce) = true :=
      accepts_map (fun operand member => (each operand member).operand.kind)
        (fun operand member _ => literalValue?_reduce (deeper member) (typed operand member)) accepted
    rw [reduce, reduceAll_eq_map]
    refine foldCall_settled ?_ other (areConstant_iff.mpr constant) accepted acceptedToo success
    refine forall₂_map_self fun operand member => ⟨each operand member, fun value evaluated => ?_⟩
    exact ih operand member (deeper member) (constant operand member) evaluated
      fun part within => plain part (within.trans (.argument member))
  | @block inner _ ih =>
    rw [isConstant] at constant
    rw [outcome] at success
    rw [reduce]
    exact ih (fun _ _ within => unasked _ _ (within.trans .inside)) constant success
      fun part within => plain part (within.trans .inside)

end Engine

end Reckoner
