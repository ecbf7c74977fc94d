import Reckoner.Proofs.Folding.Refinement

/-! # Operands with the same outcomes

An operator or a function sees nothing of its operands but their outcomes and declared kinds. Operands
that have the outcomes of others, failures included, and kinds that are weaker at most, make the same
result or the same failure of it. The function that asks whether its operands evaluate is no exception.
-/

namespace Reckoner

namespace Operand

/-- The operand `mirror` may stand in the place of the operand `original`, and fails where and as that
one does. -/
structure Mirrors (mirror original : Operand) : Prop extends Refines mirror original where
  same : mirror.outcome = original.outcome

variable {mirrors originals : List Operand}

/-- Mirrors refine what they mirror. -/
theorem refines_of_mirrors (faithful : List.Forall₂ Mirrors mirrors originals) :
    List.Forall₂ Refines mirrors originals :=
  faithful.imp fun _ _ here => here.toRefines

/-- Mirrors have the values of what they mirror, failures included. -/
theorem values_of_mirrors (faithful : List.Forall₂ Mirrors mirrors originals) :
    values mirrors = values originals := by
  induction faithful with
  | nil => rfl
  | cons here _ ih =>
    rw [values, values] at ih
    rw [values, values, List.mapM_cons, List.mapM_cons, here.same, ih]

theorem firstOutcome_of_mirrors (faithful : List.Forall₂ Mirrors mirrors originals) :
    firstOutcome mirrors = firstOutcome originals := by
  cases faithful with
  | nil => rfl
  | cons here _ => exact here.same

/-- What is computed from the values of mirrors is computed from those of the originals. -/
theorem unlessNull_of_mirrors (faithful : List.Forall₂ Mirrors mirrors originals)
    (compute : List Value → Except EvalError Value) :
    unlessNull mirrors compute = unlessNull originals compute := by
  rw [unlessNull, unlessNull, values_of_mirrors faithful]

theorem firstUnlessNull_of_mirrors (faithful : List.Forall₂ Mirrors mirrors originals)
    (compute : Value → Except EvalError Value) :
    firstUnlessNull mirrors compute = firstUnlessNull originals compute := by
  rw [firstUnlessNull, firstUnlessNull, firstOutcome_of_mirrors faithful]

/-- What is asked of outcomes is answered alike by mirrors. -/
theorem any_of_mirrors (faithful : List.Forall₂ Mirrors mirrors originals)
    (asks : Except EvalError Value → Bool) :
    (mirrors.any fun operand => asks operand.outcome) = originals.any fun operand => asks operand.outcome := by
  induction faithful with
  | nil => rfl
  | cons here _ ih => rw [List.any_cons, List.any_cons, here.same, ih]

theorem all_isKnown_of_mirrors (faithful : List.Forall₂ Mirrors mirrors originals) :
    mirrors.all isKnown = originals.all isKnown := by
  induction faithful with
  | nil => rfl
  | cons here _ ih => rw [List.all_cons, List.all_cons, isKnown, isKnown, here.same, ih]

/-- Coercion to a weaker kind that still takes the mirror is the same. -/
theorem Mirrors.coerce {mirror original : Operand} (faithful : mirror.Mirrors original)
    {kind kindToo : Kind} (takes : kind.takes mirror.kind = true) (weakens : kind.Weakens kindToo) :
    mirror.outcome >>= Value.coerce kind = original.outcome >>= Value.coerce kindToo := by
  rw [faithful.same]
  exact Except.bind_eq_bind fun value success =>
    Value.coerce_of_weakens (faithful.fits value success) takes weakens

end Operand

variable {mirrors originals : List Operand}

/-- A connective over mirrors has the outcome that it has over the originals. -/
theorem connectiveAfter_of_mirrors (faithful : List.Forall₂ Operand.Mirrors mirrors originals)
    (dominant sawNull : Bool) :
    connectiveAfter dominant sawNull mirrors = connectiveAfter dominant sawNull originals := by
  induction faithful generalizing sawNull with
  | nil => rfl
  | cons here _ ih => simp only [connectiveAfter, here.same, ih]

theorem concatenateAfter_of_mirrors (faithful : List.Forall₂ Operand.Mirrors mirrors originals)
    (done : String) : concatenateAfter done mirrors = concatenateAfter done originals := by
  induction faithful generalizing done with
  | nil => rfl
  | cons here _ ih => simp only [concatenateAfter, here.same, ih]

/-- Comparing in a weaker common kind gives the same order or the same failure. -/
theorem Comparison.apply_of_mirrors {comparison : Comparison}
    (faithful : List.Forall₂ Operand.Mirrors mirrors originals)
    (join : (Kind.joinAll? (Operand.kinds originals)).isSome = true) :
    comparison.apply mirrors = comparison.apply originals := by
  obtain ⟨common, join⟩ := Option.isSome_iff_exists.mp join
  obtain ⟨weaker, joinToo, weakens⟩ :=
    Kind.Weakens.joinAll? (Operand.kinds_weaken (Operand.refines_of_mirrors faithful)) join
  have takes := Kind.takes_of_joinAll? joinToo
  rcases faithful with _ | ⟨left, _ | ⟨right, others⟩⟩
  · rfl
  · rfl
  · rw [apply, apply, Kind.joined_eq join, Kind.joined_eq joinToo, left.same, right.same]
    refine Except.bind_eq_bind fun first success => Except.bind_eq_bind fun second successToo => ?_
    rw [Value.orderIn_congr
      (Value.coerce_of_weakens (left.fits first success) (takes _ (by simp [Operand.kinds])) weakens)
      (Value.coerce_of_weakens (right.fits second successToo) (takes _ (by simp [Operand.kinds])) weakens)]

/-- A product of mirrors is the product of the originals. -/
theorem multiplyOperands_of_mirrors (faithful : List.Forall₂ Operand.Mirrors mirrors originals) :
    multiplyOperands mirrors = multiplyOperands originals := by
  rw [multiplyOperands, multiplyOperands, Operand.promoted_eq (Operand.refines_of_mirrors faithful),
    Operand.unlessNull_of_mirrors faithful]

theorem divisorOutcome_of_mirrors (faithful : List.Forall₂ Operand.Mirrors mirrors originals) :
    divisorOutcome mirrors = divisorOutcome originals := by
  have product := multiplyOperands_of_mirrors faithful
  rcases faithful with _ | ⟨here, _ | _⟩
  · exact product
  · exact here.same
  · exact product

/-- A quotient of mirrors is the quotient of the originals. -/
theorem divideOperands_of_mirrors (faithful : List.Forall₂ Operand.Mirrors mirrors originals) :
    divideOperands mirrors = divideOperands originals := by
  cases faithful with
  | nil => rfl
  | cons here rest => rw [divideOperands, divideOperands, here.same, divisorOutcome_of_mirrors rest]

/-- An operator gives over operands with the same outcomes what it gives over the original ones. -/
theorem OperatorKind.apply_of_mirrors {operator : OperatorKind}
    (faithful : List.Forall₂ Operand.Mirrors mirrors originals)
    (accepts : operator.accepts (Operand.kinds originals) = true) :
    operator.apply mirrors = operator.apply originals := by
  have promoted := Operand.promoted_eq (Operand.refines_of_mirrors faithful)
  have unlessNull := Operand.unlessNull_of_mirrors faithful
  have first := Operand.firstOutcome_of_mirrors faithful
  cases operator with
  | or => exact connectiveAfter_of_mirrors faithful true false
  | and => exact connectiveAfter_of_mirrors faithful false false
  | not => rw [apply, apply, complement, complement, first]
  | comparison relation =>
    exact relation.apply_of_mirrors faithful (Bool.and_eq_true_iff.mp accepts).2
  | addition => rw [apply, apply, addOperands, addOperands, promoted, unlessNull]
  | concatenation => exact concatenateAfter_of_mirrors faithful ""
  | subtraction _ _ => rw [apply, apply, subtractOperands, subtractOperands, promoted, unlessNull]
  | multiplication => exact multiplyOperands_of_mirrors faithful
  | division _ => exact divideOperands_of_mirrors faithful
  | square => exact Operand.firstUnlessNull_of_mirrors faithful _
  | negation => rw [apply, apply, negateOperand, negateOperand, promoted, first]

/-- A choice among mirrors is the choice among the originals, in the same kind. -/
theorem chooseOperand_of_mirrors (faithful : List.Forall₂ Operand.Mirrors mirrors originals)
    (join : (Kind.joinAll? (Operand.kinds (originals.drop 1))).isSome = true) :
    chooseOperand mirrors = chooseOperand originals := by
  rcases faithful with _ | ⟨condition, _ | ⟨accepted, _ | ⟨rejected, others⟩⟩⟩
  · rfl
  · rfl
  · rfl
  · obtain ⟨common, join⟩ := Option.isSome_iff_exists.mp join
    obtain ⟨weaker, joinToo, weakens⟩ := Kind.Weakens.joinAll? (Operand.kinds_weaken
      (Operand.refines_of_mirrors (.cons accepted (.cons rejected others)))) join
    have takes := Kind.takes_of_joinAll? joinToo
    rw [List.drop_one, List.tail_cons] at join
    rw [chooseOperand, chooseOperand, Kind.joined_eq join, Kind.joined_eq joinToo, condition.same]
    refine Except.bind_eq_bind fun _ _ => Except.bind_eq_bind fun truth _ => ?_
    split
    · exact accepted.coerce (takes _ (by simp [Operand.kinds])) weakens
    · exact rejected.coerce (takes _ (by simp [Operand.kinds])) weakens

/-- The first value among mirrors is the first among the originals, in either kind. -/
theorem firstValue_of_mirrors {kind original : Kind} (weakens : kind.Weakens original)
    (faithful : List.Forall₂ Operand.Mirrors mirrors originals)
    (takes : ∀ operand ∈ mirrors, kind.takes operand.kind = true) :
    firstValue kind mirrors = firstValue original originals := by
  induction faithful with
  | nil => rfl
  | cons here _ ih =>
    obtain ⟨taken, takesOthers⟩ := List.forall_mem_cons.mp takes
    rw [firstValue, firstValue, here.same]
    refine Except.bind_eq_bind fun value success => ?_
    rw [ih takesOthers, Value.coerce_of_weakens (here.fits value success) taken weakens]

/-- A function gives over operands with the same outcomes what it gives over the original ones. -/
theorem FunctionKind.apply_of_mirrors {function : FunctionKind} {fallback? : Option Value}
    (faithful : List.Forall₂ Operand.Mirrors mirrors originals)
    (accepts : function.accepts (Operand.kinds originals) fallback? = true) :
    function.apply mirrors = function.apply originals := by
  have refines := Operand.refines_of_mirrors faithful
  have promoted := Operand.promoted_eq refines
  have first := Operand.firstOutcome_of_mirrors faithful
  have firstUnlessNull := Operand.firstUnlessNull_of_mirrors faithful
  cases function with
  | conditional =>
    refine chooseOperand_of_mirrors faithful ?_
    have join := (Bool.and_eq_true_iff.mp accepts).2
    rwa [Operand.kinds, ← List.map_drop] at join
  | isNull | kindName | noZero => rw [apply, apply, first]
  | noNull =>
    obtain ⟨common, join⟩ := Option.isSome_iff_exists.mp (Bool.and_eq_true_iff.mp accepts).2
    obtain ⟨weaker, joinToo, weakens⟩ := Kind.Weakens.joinAll? (Operand.kinds_weaken refines) join
    rw [apply, apply, Kind.joined_eq join, Kind.joined_eq joinToo]
    exact firstValue_of_mirrors weakens faithful fun operand member =>
      Kind.takes_of_joinAll? joinToo _ (List.mem_map_of_mem member)
  | hexadecimal | squareRoot | round => exact firstUnlessNull _
  | evaluates => rw [apply, apply, Operand.all_isKnown_of_mirrors faithful]
  | now instant => rfl
  | absolute => rw [apply, apply, promoted, firstUnlessNull]
  | least | greatest =>
    rw [apply, apply, extremeOperand, extremeOperand, promoted, Operand.values_of_mirrors faithful]
  | length | upper | lower => rw [apply, apply, ofText, ofText, first]

end Reckoner
