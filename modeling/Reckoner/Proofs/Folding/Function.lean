import Reckoner.Proofs.Folding.Rules

/-! # Folding of functions

Every rule by which a function folds its operands keeps what evaluates. Choosing the branch of a
conditional is the one rule that needs more than the reduced operands: the chosen branch has the kind
of the whole only by declaration, and it takes the original branch to know that its value fits.
-/

namespace Reckoner

open Reckoner.Tree

variable {document : Option Json}

/-- A conditional that evaluates has the value of the chosen branch in the common kind. -/
theorem exists_of_chooseOperand {condition accepted rejected : Operand} {others : List Operand}
    {value : Value}
    (success : chooseOperand (condition :: accepted :: rejected :: others) = .ok value) :
    ∃ decision truth chosen, condition.outcome = .ok decision ∧ decision.asTruth = .ok truth ∧
      (if truth = some true then accepted else rejected).outcome = .ok chosen ∧
      chosen.coerce (Kind.joined (Operand.kinds (accepted :: rejected :: others))) = .ok value := by
  obtain ⟨decision, decided, success⟩ := Except.bind_eq_ok_iff.mp success
  obtain ⟨truth, read, success⟩ := Except.bind_eq_ok_iff.mp success
  refine ⟨decision, truth, ?_⟩
  split at success
  · next yes =>
    obtain ⟨chosen, evaluated, coerced⟩ := Except.bind_eq_ok_iff.mp success
    exact ⟨chosen, decided, read, by rwa [if_pos yes], coerced⟩
  · next no =>
    obtain ⟨chosen, evaluated, coerced⟩ := Except.bind_eq_ok_iff.mp success
    exact ⟨chosen, decided, read, by rwa [if_neg no], coerced⟩

/-- A conditional is folded to the branch that its constant condition chooses, or to the constant value of that
branch in the common kind. -/
theorem exists_branch_of_foldConditional? {operands : List Tree} {folded : Folded}
    (fold : foldConditional? operands = some folded) :
    ∃ test left right others decision truth branch, operands = test :: left :: right :: others ∧
      test.literalValue? = some decision ∧ decision.asTruth = .ok truth ∧
      branch = (if truth = some true then left else right) ∧ branch ∈ operands ∧
      (branch.kind = Kind.joined (kinds (left :: right :: others)) ∧ folded = .tree branch ∨
        ∃ value result, branch.literalValue? = some value ∧
          value.coerce (Kind.joined (kinds (left :: right :: others))) = .ok result ∧
          folded = .literal (Kind.joined (kinds (left :: right :: others))) result) := by
  rcases operands with _ | ⟨test, _ | ⟨left, _ | ⟨right, others⟩⟩⟩
  · cases fold
  · cases fold
  · cases fold
  obtain ⟨decision, decided, fold⟩ := Option.bind_eq_some_iff.mp fold
  obtain ⟨truth, read, fold⟩ := Option.bind_eq_some_iff.mp fold
  refine ⟨test, left, right, others, decision, truth, _, rfl, decided, Except.toOption_eq_some_iff.mp read, rfl,
    by split <;> simp, ?_⟩
  dsimp only at fold
  generalize (if truth = some true then left else right) = branch at fold ⊢
  split at fold
  · next same => exact .inl ⟨same, (Option.some.inj fold).symm⟩
  · obtain ⟨value, evaluated, fold⟩ := Option.bind_eq_some_iff.mp fold
    obtain ⟨result, coerced, fold⟩ := Option.bind_eq_some_iff.mp fold
    exact .inr ⟨value, result, evaluated, Except.toOption_eq_some_iff.mp coerced, (Option.some.inj fold).symm⟩

private theorem exists_chosen {test left right testToo leftToo rightToo : Tree}
    {others othersToo : List Tree} {decision value other : Value} {truth : Option Bool}
    (condition : Reduces document test testToo) (accepted : Reduces document left leftToo)
    (rejected : Reduces document right rightToo) (decided : test.literalValue? = some decision)
    (read : decision.asTruth = .ok truth)
    (success : chooseOperand (operandsFor document (test :: left :: right :: others)) = .ok value)
    (original : chooseOperand
      (operandsFor document (testToo :: leftToo :: rightToo :: othersToo)) = .ok other) :
    ∃ found, (if truth = some true then left else right).outcome document = .ok found ∧
      found.Fits (if truth = some true then left else right).kind ∧
      found.coerce (Kind.joined (kinds (left :: right :: others))) = .ok value := by
  rw [operandsFor, operandsFor, operandsFor] at success original
  obtain ⟨_, _, found, decidedToo, readToo, evaluated, coerced⟩ := exists_of_chooseOperand success
  obtain ⟨_, _, before, decidedBefore, readBefore, evaluatedBefore, _⟩ :=
    exists_of_chooseOperand original
  have known := outcome_of_literalValue? decided document
  obtain rfl := Except.ok.inj (known.symm.trans decidedToo)
  obtain rfl := Except.ok.inj (known.symm.trans (condition.operand.outcome _ decidedBefore))
  obtain rfl := Except.ok.inj (read.symm.trans readToo)
  obtain rfl := Except.ok.inj (read.symm.trans readBefore)
  refine ⟨found, ?_, ?_, ?_⟩
  · split at evaluated
    · next yes => rwa [if_pos yes]
    · next no => rwa [if_neg no]
  · split at evaluatedBefore
    · next yes =>
      rw [if_pos yes] at evaluated ⊢
      obtain rfl := Except.ok.inj (evaluated.symm.trans (accepted.operand.outcome _ evaluatedBefore))
      exact accepted.operand.fits _ evaluatedBefore
    · next no =>
      rw [if_neg no] at evaluated ⊢
      obtain rfl := Except.ok.inj (evaluated.symm.trans (rejected.operand.outcome _ evaluatedBefore))
      exact rejected.operand.fits _ evaluatedBefore
  · have same := kinds_operandsFor document (left :: right :: others)
    rw [operandsFor, operandsFor] at same
    rwa [← same]

/-- A constant condition decides between the branches whatever the document is. -/
theorem foldConditional?_reduces {again : List Tree → Tree} {reduced originals : List Tree}
    {folded : Folded} (reduces : List.Forall₂ (Reduces document) reduced originals)
    (whole : Reduces document (again reduced) (again originals))
    (outcome : ∀ operands, (again operands).outcome document =
      chooseOperand (operandsFor document operands))
    (sort : (again reduced).kind = Kind.joined ((kinds reduced).drop 1))
    (constant : (again reduced).isConstant = areConstant reduced)
    (fold : foldConditional? reduced = some folded) :
    Reduces document (folded.result again) (again originals) := by
  obtain ⟨test, left, right, others, decision, truth, branch, rfl, decided, read, choice, part, shape⟩ :=
    exists_branch_of_foldConditional? fold
  obtain _ | ⟨condition, _ | ⟨accepted, _ | ⟨rejected, _⟩⟩⟩ := reduces
  have chosen {value : Value} (success : (again _).outcome document = .ok value) :=
    exists_chosen condition accepted rejected decided read
      ((outcome _).symm.trans (whole.operand.outcome value success)) ((outcome _).symm.trans success)
  rw [← choice] at chosen
  rcases shape with ⟨same, rfl⟩ | ⟨known, result, evaluated, coerced, rfl⟩
  · have alike := same.trans sort.symm
    refine ⟨⟨fun value success => ?_, ?_, fun value success => ?_⟩, fun known => ?_⟩
    · obtain ⟨found, evaluated, fits, coerced⟩ := chosen success
      rw [← same, fits.coerce_self] at coerced
      exact evaluated.trans coerced
    · exact alike ▸ whole.operand.kind
    · exact alike ▸ whole.operand.fits value success
    · exact areConstant_iff.mp (constant ▸ whole.constant known) branch part
  · refine ⟨⟨fun value success => ?_, ?_, fun value success => ?_⟩, fun _ => ?_⟩
    · obtain ⟨found, evaluatedToo, _, coercedToo⟩ := chosen success
      have same := (outcome_of_literalValue? evaluated document).symm.trans evaluatedToo
      obtain rfl := Except.ok.inj same
      rw [Folded.result_literal, Tree.outcome]
      exact coerced.symm.trans coercedToo
    · exact sort ▸ whole.operand.kind
    · exact sort ▸ whole.operand.fits value success
    · rw [Folded.result_literal, isConstant]

/-- The first constant that is not null is the first such value for every document. -/
theorem firstValue_of_foldFirstValue? (document : Option Json) {kind : Kind} {operands : List Tree} {folded : Folded}
    (fold : foldFirstValue? kind operands = some folded) :
    ∃ value, folded = .literal kind value ∧
      firstValue kind (operandsFor document operands) = .ok value := by
  induction operands with
  | nil => cases fold
  | cons operand rest ih =>
    rw [foldFirstValue?] at fold
    rw [operandsFor, firstValue]
    split at fold
    · cases fold
    · next known =>
      rw [outcome_of_literalValue? known]
      exact ih fold
    · next value present known =>
      obtain ⟨coerced, success, rfl⟩ := Option.map_eq_some_iff.mp fold
      refine ⟨coerced, rfl, ?_⟩
      rw [outcome_of_literalValue? known, Except.ok_bind,
        if_neg (present ∘ (Value.isNull_iff value).mp)]
      exact Except.toOption_eq_some_iff.mp success

/-- What a function folds its reduced operands to reduces the function over the original ones. -/
theorem folded_reduces {function : Function} {reduced originals : List Tree} {folded : Folded}
    (reduces : List.Forall₂ (Reduces document) reduced originals)
    (other : function.kind ≠ .evaluates) (accepted : function.accepts originals = true)
    (fold : function.kind.fold? reduced = some folded) :
    Reduces document (folded.result (.call function)) (.call function originals) := by
  have whole := call_reduces reduces other accepted
  have meaning (operands : List Tree) : (Tree.call function operands).outcome document =
      function.kind.apply (operandsFor document operands) := by rw [Tree.outcome]
  have sort : function.kind.resultKind (kinds reduced) = (Tree.call function reduced).kind := by
    rw [Tree.kind]
  suffices keeps : function.kind ≠ .conditional →
      Folded.Keeps document (.call function) reduced (function.kind.fold? reduced) by
    by_cases form : function.kind = .conditional
    · rw [form] at fold meaning sort
      exact foldConditional?_reduces reduces whole meaning sort.symm (by rw [isConstant]) fold
    · exact (keeps form folded fold).reduces whole
  intro unconditional
  have meaning := meaning reduced
  cases form : function.kind with
  | conditional => exact absurd form unconditional
  | noNull =>
    rw [form] at meaning sort
    intro folded fold
    obtain ⟨found, rfl, success⟩ := firstValue_of_foldFirstValue? document fold
    refine .literal sort fun value answer => ?_
    rw [meaning, FunctionKind.apply, kinds_operandsFor, success] at answer
    exact (Except.ok.inj answer).symm
  | isNull | noZero | hexadecimal | squareRoot | kindName =>
    rw [form] at meaning sort
    exact foldLiteral?_keeps meaning sort
  | absolute | round | least | greatest | length | upper | lower =>
    rw [form] at meaning sort
    exact foldConstant?_keeps meaning sort
  | evaluates | now _ =>
    intro folded fold
    cases fold

end Reckoner
