import Reckoner.Proofs.Expression
import Reckoner.Proofs.Folding.Refinement

/-! # Sound replacement

When one expression may stand in the place of another one for a given document, and when a folding rule
is sound: it keeps the value of the whole wherever there is one, and the kind with it. Where there is
none, the kind may weaken. Folding of constant operands to their value is sound for every operator and
every function.
-/

namespace Reckoner

namespace Tree

variable {document : Option Json}

/-- Where every operand changes to one of a weaker kind, the list of kinds weakens. -/
theorem kinds_map_weaken {operands : List Tree} {change : Tree → Tree}
    (weakens : ∀ operand ∈ operands, (change operand).kind.Weakens operand.kind) :
    List.Forall₂ Kind.Weakens (kinds (operands.map change)) (kinds operands) := by
  rw [kinds_eq_map, kinds_eq_map, List.map_map, List.forall₂_map_left_iff, List.forall₂_map_right_iff,
    List.forall₂_same]
  exact weakens

/-- For `document` the expression `reduced` may stand in the place of `original`. -/
structure Reduces (document : Option Json) (reduced original : Tree) : Prop where
  operand : Operand.Refines ⟨reduced.kind, reduced.outcome document⟩
    ⟨original.kind, original.outcome document⟩
  constant : original.isConstant = true → reduced.isConstant = true

/-- For `document` the rule that makes `folded` of `whole` keeps the value where there is one. -/
structure Replaces (document : Option Json) (folded whole : Tree) : Prop where
  outcome : ∀ value, whole.outcome document = .ok value →
    folded.outcome document = .ok value ∧ folded.kind = whole.kind
  kind : folded.kind.Weakens whole.kind
  constant : whole.isConstant = true → folded.isConstant = true

/-- What replaces a reduction of an expression is a reduction of it too. -/
theorem Replaces.reduces {folded whole original : Tree} (replaces : Replaces document folded whole)
    (reduces : Reduces document whole original) : Reduces document folded original where
  operand :=
    { outcome := fun value success =>
        (replaces.outcome value (reduces.operand.outcome value success)).1
      kind := replaces.kind.trans reduces.operand.kind
      fits := fun value success => by
        have same := (replaces.outcome value (reduces.operand.outcome value success)).2
        exact same ▸ reduces.operand.fits value success }
  constant := fun constant => replaces.constant (reduces.constant constant)

/-- A literal replaces an expression of its kind that has no other value. -/
theorem Replaces.literal {kind : Kind} {value : Value} {whole : Tree} (sort : kind = whole.kind)
    (same : ∀ other, whole.outcome document = .ok other → other = value) :
    Replaces document (.literal kind value) whole where
  outcome other success := by
    rw [Tree.outcome, same other success]
    exact ⟨rfl, sort⟩
  kind := .inl sort
  constant _ := by rw [isConstant]

/-- Anything of a weaker kind replaces an expression that has no value. -/
theorem Replaces.of_fails {folded whole : Tree}
    (fails : ∀ value, whole.outcome document ≠ .ok value) (kind : folded.kind.Weakens whole.kind)
    (constant : whole.isConstant = true → folded.isConstant = true) :
    Replaces document folded whole :=
  ⟨fun value success => absurd success (fails value), kind, constant⟩

/-- Reductions are refined operands. -/
theorem operandsFor_refines {reduced originals : List Tree}
    (reduces : List.Forall₂ (Reduces document) reduced originals) :
    List.Forall₂ Operand.Refines (operandsFor document reduced)
      (operandsFor document originals) := by
  rw [operandsFor_eq_map, operandsFor_eq_map, List.forall₂_map_left_iff,
    List.forall₂_map_right_iff]
  exact reduces.imp fun _ _ reduces => reduces.operand

theorem areConstant_of_reduces {reduced originals : List Tree}
    (reduces : List.Forall₂ (Reduces document) reduced originals)
    (constant : areConstant originals = true) : areConstant reduced = true := by
  induction reduces with
  | nil => rfl
  | cons here _ ih =>
    rw [areConstant, Bool.and_eq_true] at constant ⊢
    exact ⟨here.constant constant.1, ih constant.2⟩

/-- An operator that accepts the original operands accepts the reduced ones. -/
theorem accepts_of_reduces {operator : Operator} {reduced originals : List Tree}
    (reduces : List.Forall₂ (Reduces document) reduced originals)
    (accepted : operator.accepts originals = true) : operator.accepts reduced = true := by
  rw [Operator.accepts, ← kinds_operandsFor document] at accepted ⊢
  exact OperatorKind.accepts_of_weakens (Operand.kinds_weaken (operandsFor_refines reduces)) accepted

/-- An operator over reduced operands reduces the operator over the original ones. -/
theorem operation_reduces {operator : Operator} {reduced originals : List Tree}
    (reduces : List.Forall₂ (Reduces document) reduced originals)
    (accepted : operator.accepts originals = true) :
    Reduces document (.operation operator reduced) (.operation operator originals) := by
  have refines := operandsFor_refines reduces
  have weakens := Operand.kinds_weaken refines
  rw [Operator.accepts, ← kinds_operandsFor document] at accepted
  constructor
  · simp only [Tree.kind, Tree.outcome, ← kinds_operandsFor document]
    exact ⟨OperatorKind.apply_refines refines accepted,
      .inl (OperatorKind.resultKind_of_weakens weakens),
      fun value => OperatorKind.fits_of_refines refines accepted⟩
  · simp only [isConstant]
    exact areConstant_of_reduces reduces

/-- A function over reduced operands reduces the function over the original ones. -/
theorem call_reduces {function : Function} {reduced originals : List Tree}
    (reduces : List.Forall₂ (Reduces document) reduced originals)
    (other : function.kind ≠ .evaluates) (accepted : function.accepts originals = true) :
    Reduces document (.call function reduced) (.call function originals) := by
  have refines := operandsFor_refines reduces
  have weakens := Operand.kinds_weaken refines
  rw [Function.accepts, ← kinds_operandsFor document] at accepted
  constructor
  · simp only [Tree.kind, Tree.outcome, ← kinds_operandsFor document]
    exact ⟨FunctionKind.apply_refines refines other accepted,
      FunctionKind.resultKind_of_weakens weakens accepted,
      fun value => FunctionKind.fits_of_refines refines other accepted⟩
  · simp only [isConstant]
    exact areConstant_of_reduces reduces

end Tree

namespace Folded

/-- The expression that folding makes, where `again` applies the operator or function once more. -/
def result (again : List Tree → Tree) : Folded → Tree
  | .tree whole => whole
  | .operands parts => again parts

theorem result_literal (again : List Tree → Tree) (kind : Kind) (value : Value) :
    (literal kind value).result again = .literal kind value := rfl

/-- Whatever is folded replaces the operator or function over the operands. -/
def Keeps (document : Option Json) (again : List Tree → Tree) (operands : List Tree)
    (folded? : Option Folded) : Prop :=
  ∀ folded, folded? = some folded → (folded.result again).Replaces document (again operands)

variable {document : Option Json} {again : List Tree → Tree} {operands : List Tree}

/-- Of two attempts to fold that keep the outcome, the first that comes to something keeps it. -/
theorem Keeps.or {first second : Option Folded} (keeps : Keeps document again operands first)
    (keepsToo : Keeps document again operands second) :
    Keeps document again operands (first.or second) := by
  intro folded fold
  rcases Option.or_eq_some_iff.mp fold with fold | ⟨_, fold⟩
  · exact keeps folded fold
  · exact keepsToo folded fold

end Folded

/-- Constants fold to their value, as a literal of the kind. -/
theorem foldConstant?_eq_some_iff {kind : Kind} {apply : List Operand → Except EvalError Value}
    {operands : List Tree} {folded : Folded} :
    foldConstant? kind apply operands = some folded ↔
      Tree.areConstant operands = true ∧
        ∃ value, apply (Tree.known operands) = .ok value ∧ folded = .literal kind value := by
  unfold foldConstant?
  split
  · next constant =>
    simp only [constant, true_and, Option.map_eq_some_iff, Except.toOption_eq_some_iff,
      eq_comm (b := folded)]
  · next varying => simp only [varying, reduceCtorEq, false_and]

section Constants

variable {document : Option Json} {again : List Tree → Tree} {operands : List Tree} {kind : Kind}
  {apply : List Operand → Except EvalError Value}
  (outcome : (again operands).outcome document = apply (Tree.operandsFor document operands))
  (sort : kind = (again operands).kind)

include outcome sort

/-- Constant operands fold to the value that they have for every document. -/
theorem foldConstant?_keeps :
    Folded.Keeps document again operands (foldConstant? kind apply operands) := by
  intro folded fold
  obtain ⟨constant, value, success, rfl⟩ := foldConstant?_eq_some_iff.mp fold
  rw [Folded.result_literal]
  refine .literal sort fun other answer => ?_
  rw [outcome, Tree.operandsFor_of_areConstant constant, success] at answer
  exact (Except.ok.inj answer).symm

theorem foldLiteral?_keeps :
    Folded.Keeps document again operands (foldLiteral? kind apply operands) := by
  unfold foldLiteral?
  split
  · exact foldConstant?_keeps outcome sort
  · intro folded fold
    cases fold

/-- Over constant operands a rule is sound if it finds their value where they have one, and folds to
something constant of a weaker kind where they have none. -/
theorem Folded.keeps_of_areConstant {folded? : Option Folded}
    (constant : Tree.areConstant operands = true)
    (answers : ∀ value, apply (Tree.known operands) = .ok value →
      folded? = some (.literal kind value))
    (shape : ∀ folded, folded? = some folded →
      (folded.result again).kind.Weakens kind ∧ (folded.result again).isConstant = true) :
    Folded.Keeps document again operands folded? := by
  intro folded fold
  have known := Tree.operandsFor_of_areConstant constant document
  cases result : apply (Tree.known operands) with
  | ok value =>
    obtain rfl := Option.some.inj (fold.symm.trans (answers value result))
    rw [Folded.result_literal]
    refine .literal sort fun other answer => ?_
    rw [outcome, known, result] at answer
    exact (Except.ok.inj answer).symm
  | error error =>
    refine .of_fails (fun value answer => ?_) (sort ▸ (shape folded fold).1)
      fun _ => (shape folded fold).2
    rw [outcome, known, result] at answer
    cases answer

end Constants

end Reckoner
