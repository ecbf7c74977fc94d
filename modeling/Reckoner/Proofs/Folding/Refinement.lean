import Reckoner.Proofs.Typing.Function
import Mathlib.Data.List.Forall2

/-! # Operands in place of others

An operand refines another one if it answers whatever the other one answers. Its kind is the same, or
null where the other one is declared a long but answers nothing except null. Operators and functions
answer over refined operands whatever they answer over the original ones; the function that asks
whether its operands evaluate is the only one that can tell them apart.
-/

namespace Reckoner

namespace Except

variable {ε α β : Type}

/-- The first outcome is a value wherever the second one is that value. -/
def Refines (refined original : Except ε α) : Prop :=
  ∀ value, original = .ok value → refined = .ok value

theorem Refines.refl (outcome : Except ε α) : Refines outcome outcome := fun _ success => success

/-- A chain of refined steps refines the chain. -/
theorem Refines.bind {refined original : Except ε α} {next nextToo : α → Except ε β}
    (refines : Refines refined original)
    (step : ∀ value, original = .ok value → Refines (next value) (nextToo value)) :
    Refines (refined >>= next) (original >>= nextToo) := by
  intro result success
  obtain ⟨value, first, rest⟩ := bind_eq_ok_iff.mp success
  rw [refines value first]
  exact step value first result rest

end Except

namespace Kind

/-- The kind stands for the kind `original`: it is the same, or null for a long. -/
def Weakens (kind original : Kind) : Prop := kind = original ∨ kind = null ∧ original = long

theorem Weakens.refl (kind : Kind) : Weakens kind kind := .inl rfl

theorem Weakens.trans {first second third : Kind} (upper : Weakens first second)
    (lower : Weakens second third) : Weakens first third := by
  rcases upper with rfl | ⟨rfl, rfl⟩
  · exact lower
  · rcases lower with rfl | ⟨same, _⟩
    · exact .inr ⟨rfl, rfl⟩
    · cases same

/-- A kind that takes another takes what stands for it. -/
theorem Weakens.takes {kind original upper : Kind} (weakens : Weakens kind original)
    (takes : upper.takes original = true) : upper.takes kind = true := by
  rcases weakens with rfl | ⟨rfl, rfl⟩
  · exact takes
  · exact takes_null upper

/-- Kinds that stand for others have a common one that stands for theirs. -/
theorem Weakens.join? {left leftToo right rightToo joined : Kind} (weakens : Weakens left leftToo)
    (weakensToo : Weakens right rightToo) (join : join? leftToo rightToo = some joined) :
    ∃ common, Kind.join? left right = some common ∧ Weakens common joined := by
  rcases weakens with rfl | ⟨rfl, rfl⟩ <;> rcases weakensToo with rfl | ⟨rfl, rfl⟩
  · exact ⟨joined, join, .refl joined⟩
  · revert join
    cases left <;> cases joined <;> simp [Kind.join?, Kind.takes, Kind.isNumeric, Weakens]
  · revert join
    cases right <;> cases joined <;> simp [Kind.join?, Kind.takes, Kind.isNumeric, Weakens]
  · obtain rfl := Option.some.inj join
    exact ⟨null, rfl, .inr ⟨rfl, rfl⟩⟩

/-- Weaker kinds have a weaker common kind. -/
theorem Weakens.joinAll? {kinds originals : List Kind} {joined : Kind}
    (weakens : List.Forall₂ Weakens kinds originals) (join : joinAll? originals = some joined) :
    ∃ common, Kind.joinAll? kinds = some common ∧ Weakens common joined := by
  have spread (kinds originals : List Kind) (weakens : List.Forall₂ Weakens kinds originals)
      (start startToo : Kind) (here : Weakens start startToo)
      (fold : originals.foldlM Kind.join? startToo = some joined) :
      ∃ common, kinds.foldlM Kind.join? start = some common ∧ Weakens common joined := by
    induction weakens generalizing start startToo with
    | nil =>
      obtain rfl := Option.some.inj fold
      exact ⟨start, rfl, here⟩
    | cons head _ ih =>
      rw [List.foldlM_cons] at fold
      obtain ⟨next, step, fold⟩ := Option.bind_eq_some_iff.mp fold
      obtain ⟨common, stepToo, weaker⟩ := here.join? head step
      obtain ⟨last, foldToo, weakest⟩ := ih common next weaker fold
      refine ⟨last, ?_, weakest⟩
      rw [List.foldlM_cons, stepToo]
      exact foldToo
  cases weakens with
  | nil => cases join
  | cons head rest => exact spread _ _ rest _ _ head join

/-- Null in place of a long does not make doubles of longs. -/
theorem Weakens.promoted {kinds originals : List Kind}
    (weakens : List.Forall₂ Weakens kinds originals) :
    Kind.promoted kinds = Kind.promoted originals := by
  have same : kinds.contains double = originals.contains double := by
    induction weakens with
    | nil => rfl
    | cons head _ ih =>
      rw [List.contains_cons, List.contains_cons, ih]
      rcases head with rfl | ⟨rfl, rfl⟩ <;> rfl
  unfold Kind.promoted
  rw [same]

end Kind

namespace Operand

/-- The operand `refined` may stand in the place of the operand `original`. -/
structure Refines (refined original : Operand) : Prop where
  outcome : Except.Refines refined.outcome original.outcome
  kind : refined.kind.Weakens original.kind
  fits : ∀ value, original.outcome = .ok value → value.Fits refined.kind

variable {refined originals : List Operand}

/-- Refined operands are declared to be of kinds that stand for the original ones. -/
theorem kinds_weaken (refines : List.Forall₂ Refines refined originals) :
    List.Forall₂ Kind.Weakens (kinds refined) (kinds originals) := by
  rw [kinds, kinds, List.forall₂_map_left_iff, List.forall₂_map_right_iff]
  exact refines.imp fun _ _ refines => refines.kind

/-- Refined operands are computed in the kind of the originals. -/
theorem promoted_eq (refines : List.Forall₂ Refines refined originals) :
    Kind.promoted (kinds refined) = Kind.promoted (kinds originals) :=
  Kind.Weakens.promoted (kinds_weaken refines)

/-- Refined operands have the values that the originals have. -/
theorem values_refines (refines : List.Forall₂ Refines refined originals) :
    Except.Refines (values refined) (values originals) := by
  induction refines with
  | nil => exact .refl _
  | cons here _ ih =>
    rw [values, values, List.mapM_cons, List.mapM_cons]
    exact here.outcome.bind fun _ _ => ih.bind fun _ _ => .refl _

theorem unlessNull_refines (refines : List.Forall₂ Refines refined originals)
    (compute : List Value → Except EvalError Value) :
    Except.Refines (unlessNull refined compute) (unlessNull originals compute) :=
  (values_refines refines).bind fun _ _ => .refl _

theorem firstOutcome_refines (refines : List.Forall₂ Refines refined originals) :
    Except.Refines (firstOutcome refined) (firstOutcome originals) := by
  cases refines with
  | nil => exact .refl _
  | cons here _ => exact here.outcome

theorem firstUnlessNull_refines (refines : List.Forall₂ Refines refined originals)
    (compute : Value → Except EvalError Value) :
    Except.Refines (firstUnlessNull refined compute) (firstUnlessNull originals compute) :=
  (firstOutcome_refines refines).bind fun _ _ => .refl _

end Operand

namespace Value

theorem eq_null_of_takes {source : Kind} {value : Value} (fits : value.Fits source)
    (takes : Kind.null.takes source = true) : value = .null := by
  rcases fits with rfl | rfl
  · rfl
  · cases value <;> first | rfl | exact absurd takes Bool.false_ne_true

/-- Coercion to a kind or to a weaker one that still takes the value is the same. -/
theorem coerce_of_weakens {kind original source : Kind} {value : Value} (fits : value.Fits source)
    (takes : kind.takes source = true) (weakens : kind.Weakens original) :
    value.coerce kind = value.coerce original := by
  rcases weakens with rfl | ⟨rfl, rfl⟩
  · rfl
  · rw [eq_null_of_takes fits takes, coerce_null, coerce_null]

/-- Kinds to which values are coerced alike order the values alike. -/
theorem orderIn_congr {kind kindToo : Kind} {left right : Value}
    (same : left.coerce kind = left.coerce kindToo)
    (sameToo : right.coerce kind = right.coerce kindToo) :
    orderIn kind left right = orderIn kindToo left right := by
  unfold orderIn
  split
  · rfl
  · rfl
  · rfl
  · rw [same, sameToo]

end Value

section Operators

variable {refined originals : List Operand}

/-- A connective over refined operands refines the connective. -/
theorem connectiveAfter_refines (refines : List.Forall₂ Operand.Refines refined originals)
    (dominant sawNull : Bool) :
    Except.Refines (connectiveAfter dominant sawNull refined)
      (connectiveAfter dominant sawNull originals) := by
  induction refines generalizing sawNull with
  | nil => exact .refl _
  | cons here _ ih =>
    rw [connectiveAfter, connectiveAfter]
    refine here.outcome.bind fun value _ => (Except.Refines.refl _).bind fun truth _ => ?_
    cases truth with
    | none => exact ih true
    | some truth =>
      dsimp only
      split
      · exact .refl _
      · exact ih sawNull

theorem concatenateAfter_refines (refines : List.Forall₂ Operand.Refines refined originals)
    (done : String) :
    Except.Refines (concatenateAfter done refined) (concatenateAfter done originals) := by
  induction refines generalizing done with
  | nil => exact .refl _
  | cons here _ ih =>
    rw [concatenateAfter, concatenateAfter]
    refine here.outcome.bind fun value _ => (Except.Refines.refl _).bind fun text _ => ?_
    cases text with
    | none => exact .refl _
    | some text => exact ih (done ++ text)

/-- Comparing in a weaker common kind gives the same order. -/
theorem Comparison.apply_refines {comparison : Comparison}
    (refines : List.Forall₂ Operand.Refines refined originals)
    (join : (Kind.joinAll? (Operand.kinds originals)).isSome = true) :
    Except.Refines (comparison.apply refined) (comparison.apply originals) := by
  obtain ⟨common, join⟩ := Option.isSome_iff_exists.mp join
  obtain ⟨weaker, joinToo, weakens⟩ := Kind.Weakens.joinAll? (Operand.kinds_weaken refines) join
  have takes := Kind.takes_of_joinAll? joinToo
  cases refines with
  | nil => exact .refl _
  | cons left rest =>
    cases rest with
    | nil => exact .refl _
    | cons right others =>
      rw [apply, apply, Kind.joined_eq join, Kind.joined_eq joinToo]
      refine left.outcome.bind fun first success => right.outcome.bind fun second successToo => ?_
      have same : first.coerce weaker = first.coerce common :=
        Value.coerce_of_weakens (left.fits first success) (takes _ (by simp [Operand.kinds])) weakens
      have sameToo : second.coerce weaker = second.coerce common :=
        Value.coerce_of_weakens (right.fits second successToo) (takes _ (by simp [Operand.kinds]))
          weakens
      rw [Value.orderIn_congr same sameToo]
      exact .refl _

/-- The divisor that refined operands make refines that of the originals. -/
theorem divisorOutcome_refines (refines : List.Forall₂ Operand.Refines refined originals) :
    Except.Refines (divisorOutcome refined) (divisorOutcome originals) := by
  have product : Except.Refines (multiplyOperands refined) (multiplyOperands originals) := by
    rw [multiplyOperands, multiplyOperands, Operand.promoted_eq refines]
    exact Operand.unlessNull_refines refines _
  cases refines with
  | nil => exact product
  | cons here rest =>
    cases rest with
    | nil => exact here.outcome
    | cons _ _ => exact product

/-- A quotient of refined operands refines the quotient of the originals. -/
theorem divideOperands_refines (refines : List.Forall₂ Operand.Refines refined originals) :
    Except.Refines (divideOperands refined) (divideOperands originals) := by
  cases refines with
  | nil => exact .refl _
  | cons here rest =>
    rw [divideOperands, divideOperands]
    refine here.outcome.bind fun numerator _ => ?_
    split
    · exact .refl _
    · exact (divisorOutcome_refines rest).bind fun _ _ => .refl _

/-- An operator answers over refined operands what it answers over the original ones. -/
theorem OperatorKind.apply_refines {operator : OperatorKind}
    (refines : List.Forall₂ Operand.Refines refined originals)
    (accepts : operator.accepts (Operand.kinds originals) = true) :
    Except.Refines (operator.apply refined) (operator.apply originals) := by
  have promoted := Operand.promoted_eq refines
  cases operator with
  | or => exact connectiveAfter_refines refines true false
  | and => exact connectiveAfter_refines refines false false
  | not => exact (Operand.firstOutcome_refines refines).bind fun _ _ => .refl _
  | comparison relation =>
    exact relation.apply_refines refines (Bool.and_eq_true_iff.mp accepts).2
  | addition =>
    rw [apply, apply, addOperands, addOperands, promoted]
    exact Operand.unlessNull_refines refines _
  | concatenation => exact concatenateAfter_refines refines ""
  | subtraction _ _ =>
    rw [apply, apply, subtractOperands, subtractOperands, promoted]
    exact Operand.unlessNull_refines refines _
  | multiplication =>
    rw [apply, apply, multiplyOperands, multiplyOperands, promoted]
    exact Operand.unlessNull_refines refines _
  | division _ => exact divideOperands_refines refines
  | square => exact Operand.firstUnlessNull_refines refines _
  | negation =>
    rw [apply, apply, negateOperand, negateOperand, promoted]
    exact (Operand.firstOutcome_refines refines).bind fun _ _ => .refl _

/-- A choice among refined operands refines the choice among the originals. -/
theorem chooseOperand_refines (refines : List.Forall₂ Operand.Refines refined originals)
    (join : (Kind.joinAll? (Operand.kinds (originals.drop 1))).isSome = true) :
    Except.Refines (chooseOperand refined) (chooseOperand originals) := by
  rcases refines with _ | ⟨condition, _ | ⟨accepted, _ | ⟨rejected, others⟩⟩⟩
  · exact .refl _
  · exact .refl _
  · exact .refl _
  · obtain ⟨common, join⟩ := Option.isSome_iff_exists.mp join
    obtain ⟨weaker, joinToo, weakens⟩ := Kind.Weakens.joinAll?
      (Operand.kinds_weaken (.cons accepted (.cons rejected others))) join
    have takes := Kind.takes_of_joinAll? joinToo
    rw [List.drop_one, List.tail_cons] at join
    have branch {operand original : Operand} (here : operand.Refines original)
        (taken : weaker.takes operand.kind = true) :
        Except.Refines (operand.outcome >>= Value.coerce weaker)
          (original.outcome >>= Value.coerce common) :=
      here.outcome.bind fun value success =>
        Value.coerce_of_weakens (here.fits value success) taken weakens ▸ .refl _
    rw [chooseOperand, chooseOperand, Kind.joined_eq join, Kind.joined_eq joinToo]
    refine condition.outcome.bind fun _ _ => (Except.Refines.refl _).bind fun truth _ => ?_
    split
    · exact branch accepted (takes _ (by simp [Operand.kinds]))
    · exact branch rejected (takes _ (by simp [Operand.kinds]))

/-- The first value among refined operands is that of the originals, in either kind. -/
theorem firstValue_refines {kind original : Kind} (weakens : kind.Weakens original)
    (refines : List.Forall₂ Operand.Refines refined originals)
    (takes : ∀ operand ∈ refined, kind.takes operand.kind = true) :
    Except.Refines (firstValue kind refined) (firstValue original originals) := by
  induction refines with
  | nil => exact .refl _
  | cons here _ ih =>
    obtain ⟨taken, takesOthers⟩ := List.forall_mem_cons.mp takes
    rw [firstValue, firstValue]
    refine here.outcome.bind fun value success => ?_
    split
    · exact ih takesOthers
    · rw [Value.coerce_of_weakens (here.fits value success) taken weakens]
      exact .refl _

/-- An extreme of refined operands refines that of the originals. -/
theorem extremeOperand_refines (refines : List.Forall₂ Operand.Refines refined originals)
    (wanted : Ordering) :
    Except.Refines (extremeOperand wanted refined) (extremeOperand wanted originals) := by
  rw [extremeOperand, extremeOperand, Operand.promoted_eq refines]
  exact (Operand.values_refines refines).bind fun _ _ => .refl _

theorem ofText_refines (refines : List.Forall₂ Operand.Refines refined originals)
    (compute : List Char → Except EvalError Value) :
    Except.Refines (ofText refined compute) (ofText originals compute) :=
  (Operand.firstOutcome_refines refines).bind fun _ _ => .refl _

/-- A function answers over refined operands what it answers over the original ones, unless it asks
whether they evaluate. -/
theorem FunctionKind.apply_refines {function : FunctionKind} {fallback? : Option Value}
    (refines : List.Forall₂ Operand.Refines refined originals) (other : function ≠ .evaluates)
    (accepts : function.accepts (Operand.kinds originals) fallback? = true) :
    Except.Refines (function.apply refined) (function.apply originals) := by
  have first := Operand.firstOutcome_refines refines
  cases function with
  | conditional =>
    refine chooseOperand_refines refines ?_
    have join := (Bool.and_eq_true_iff.mp accepts).2
    rwa [Operand.kinds, ← List.map_drop] at join
  | isNull | kindName => exact first.bind fun _ _ => .refl _
  | noNull =>
    obtain ⟨common, join⟩ := Option.isSome_iff_exists.mp (Bool.and_eq_true_iff.mp accepts).2
    obtain ⟨weaker, joinToo, weakens⟩ := Kind.Weakens.joinAll? (Operand.kinds_weaken refines) join
    rw [apply, apply, Kind.joined_eq join, Kind.joined_eq joinToo]
    exact firstValue_refines weakens refines fun operand member =>
      Kind.takes_of_joinAll? joinToo _ (List.mem_map_of_mem member)
  | noZero => exact first.bind fun _ _ => .refl _
  | hexadecimal | squareRoot | round => exact Operand.firstUnlessNull_refines refines _
  | evaluates => exact absurd rfl other
  | now instant => exact .refl _
  | absolute =>
    rw [apply, apply, Operand.promoted_eq refines]
    exact Operand.firstUnlessNull_refines refines _
  | least | greatest => exact extremeOperand_refines refines _
  | length | upper | lower =>
    rw [apply, apply]
    exact ofText_refines refines _

end Operators

/-! Weaker kinds are accepted like the original ones, and give a weaker result kind. -/

section Kinds

variable {kinds originals : List Kind}

theorem Kind.Weakens.takesAll {kind : Kind} (weakens : List.Forall₂ Kind.Weakens kinds originals)
    (takes : kind.takesAll originals = true) : kind.takesAll kinds = true := by
  induction weakens with
  | nil => rfl
  | cons here _ ih =>
    rw [Kind.takesAll, List.all_cons, Bool.and_eq_true] at takes ⊢
    exact ⟨here.takes takes.1, ih takes.2⟩

theorem Kind.Weakens.isSome_joinAll? (weakens : List.Forall₂ Kind.Weakens kinds originals)
    (join : (Kind.joinAll? originals).isSome = true) : (Kind.joinAll? kinds).isSome = true := by
  obtain ⟨common, join⟩ := Option.isSome_iff_exists.mp join
  obtain ⟨weaker, joinToo, _⟩ := Kind.Weakens.joinAll? weakens join
  rw [joinToo, Option.isSome_some]

theorem Kind.Weakens.compatible {left leftToo right rightToo : Kind}
    (weakens : left.Weakens leftToo) (weakensToo : right.Weakens rightToo)
    (compatible : leftToo.compatible rightToo = true) : left.compatible right = true := by
  rw [← Kind.isSome_join?] at compatible ⊢
  obtain ⟨common, join⟩ := Option.isSome_iff_exists.mp compatible
  obtain ⟨weaker, joinToo, _⟩ := weakens.join? weakensToo join
  rw [joinToo, Option.isSome_some]

theorem Kind.Weakens.compatibleAll (weakens : List.Forall₂ Kind.Weakens kinds originals)
    (compatible : Kind.compatibleAll originals = true) : Kind.compatibleAll kinds = true := by
  cases weakens with
  | nil => rfl
  | cons here rest =>
    rw [Kind.compatibleAll] at compatible ⊢
    induction rest with
    | nil => rfl
    | cons head _ ih =>
      rw [List.all_cons, Bool.and_eq_true] at compatible ⊢
      exact ⟨here.compatible head compatible.1, ih compatible.2⟩

/-- An operator accepts operands that stand for those that it accepts. -/
theorem OperatorKind.accepts_of_weakens {operator : OperatorKind}
    (weakens : List.Forall₂ Kind.Weakens kinds originals)
    (accepts : operator.accepts originals = true) : operator.accepts kinds = true := by
  have length := weakens.length_eq
  cases operator <;> rw [OperatorKind.accepts, Bool.and_eq_true] at accepts ⊢ <;>
    first
      | exact ⟨length ▸ accepts.1, Kind.Weakens.takesAll weakens accepts.2⟩
      | exact ⟨length ▸ accepts.1, Kind.Weakens.isSome_joinAll? weakens accepts.2⟩

/-- A function accepts operands that stand for those that it accepts. -/
theorem FunctionKind.accepts_of_weakens {function : FunctionKind} {fallback? : Option Value}
    (weakens : List.Forall₂ Kind.Weakens kinds originals)
    (accepted : function.accepts originals fallback? = true) :
    function.accepts kinds fallback? = true := by
  have length := weakens.length_eq
  have empty : kinds.isEmpty = originals.isEmpty := by cases weakens <;> rfl
  cases function with
  | conditional =>
    rw [accepts, Bool.and_eq_true, Bool.and_eq_true] at accepted ⊢
    exact ⟨⟨length ▸ accepted.1.1, Kind.Weakens.takesAll (List.forall₂_take 1 weakens) accepted.1.2⟩,
      Kind.Weakens.isSome_joinAll? (List.forall₂_drop 1 weakens) accepted.2⟩
  | isNull | kindName => rwa [accepts, length]
  | noNull =>
    rw [accepts, Bool.and_eq_true, Bool.and_eq_true] at accepted ⊢
    exact ⟨⟨accepted.1.1, Kind.Weakens.compatibleAll weakens accepted.1.2⟩,
      Kind.Weakens.isSome_joinAll? weakens accepted.2⟩
  | noZero | squareRoot | absolute | round | hexadecimal | length | upper | lower =>
    rw [accepts, Bool.and_eq_true] at accepted ⊢
    exact ⟨length ▸ accepted.1, Kind.Weakens.takesAll weakens accepted.2⟩
  | evaluates => rwa [accepts, empty]
  | now instant => rwa [accepts, empty]
  | least | greatest =>
    rw [accepts, Bool.and_eq_true] at accepted ⊢
    exact ⟨empty ▸ accepted.1, Kind.Weakens.takesAll weakens accepted.2⟩

/-- An operator gives its result the same kind over operands that stand for others. -/
theorem OperatorKind.resultKind_of_weakens {operator : OperatorKind}
    (weakens : List.Forall₂ Kind.Weakens kinds originals) :
    operator.resultKind kinds = operator.resultKind originals := by
  have promoted := Kind.Weakens.promoted weakens
  cases operator <;> first | rfl | exact promoted

/-- The common kind of accepted operands weakens with the kinds of the operands. -/
theorem FunctionKind.resultKind_of_weakens {function : FunctionKind} {fallback? : Option Value}
    (weakens : List.Forall₂ Kind.Weakens kinds originals)
    (accepted : function.accepts originals fallback? = true) :
    (function.resultKind kinds).Weakens (function.resultKind originals) := by
  have joined {kinds originals : List Kind} (weakens : List.Forall₂ Kind.Weakens kinds originals)
      (join : (Kind.joinAll? originals).isSome = true) :
      (Kind.joined kinds).Weakens (Kind.joined originals) := by
    obtain ⟨common, join⟩ := Option.isSome_iff_exists.mp join
    obtain ⟨weaker, joinToo, weakest⟩ := Kind.Weakens.joinAll? weakens join
    rwa [Kind.joined_eq join, Kind.joined_eq joinToo]
  cases function with
  | conditional => exact joined (List.forall₂_drop 1 weakens) (Bool.and_eq_true_iff.mp accepted).2
  | noNull => exact joined weakens (Bool.and_eq_true_iff.mp accepted).2
  | noZero =>
    cases weakens with
    | nil => exact .refl _
    | cons here _ => exact here
  | absolute | least | greatest => exact .inl (Kind.Weakens.promoted weakens)
  | _ => exact .refl _

end Kinds

section Results

variable {refined originals : List Operand}

private theorem exists_typed (refines : List.Forall₂ Operand.Refines refined originals) :
    ∃ middle, Operand.kinds middle = Operand.kinds refined ∧
      List.Forall₂ Operand.Refines middle originals ∧
      ∀ operand ∈ middle, operand.Typed fun _ => True := by
  induction refines with
  | nil => exact ⟨[], rfl, .nil, List.forall_mem_nil _⟩
  | @cons reduced original _ _ here _ ih =>
    obtain ⟨middle, kinds, others, typed⟩ := ih
    refine ⟨⟨reduced.kind, original.outcome⟩ :: middle, ?_, .cons ?_ others,
      List.forall_mem_cons.mpr ⟨?_, typed⟩⟩
    · rw [Operand.kinds, List.map_cons, ← Operand.kinds, kinds, Operand.kinds, Operand.kinds,
        List.map_cons]
    · exact ⟨.refl _, here.kind, here.fits⟩
    · show Except.Yields _ _ original.outcome
      cases result : original.outcome with
      | error error => exact trivial
      | ok value => exact here.fits value result

/-- What an operator answers over the original operands is of its result kind for the refined ones. -/
theorem OperatorKind.fits_of_refines {operator : OperatorKind} {value : Value}
    (refines : List.Forall₂ Operand.Refines refined originals)
    (accepts : operator.accepts (Operand.kinds originals) = true)
    (success : operator.apply originals = .ok value) :
    value.Fits (operator.resultKind (Operand.kinds refined)) := by
  obtain ⟨middle, kinds, between, typed⟩ := exists_typed refines
  have accepted := OperatorKind.accepts_of_weakens (Operand.kinds_weaken between) accepts
  have yields := OperatorKind.apply_yields typed trivial accepted
  rwa [OperatorKind.apply_refines between accepts value success, kinds] at yields

/-- What a function answers over the original operands is of its result kind for the refined ones. -/
theorem FunctionKind.fits_of_refines {function : FunctionKind} {fallback? : Option Value}
    {value : Value} (refines : List.Forall₂ Operand.Refines refined originals)
    (other : function ≠ .evaluates)
    (accepts : function.accepts (Operand.kinds originals) fallback? = true)
    (success : function.apply originals = .ok value) :
    value.Fits (function.resultKind (Operand.kinds refined)) := by
  obtain ⟨middle, kinds, between, typed⟩ := exists_typed refines
  have accepted := FunctionKind.accepts_of_weakens (Operand.kinds_weaken between) accepts
  have yields := FunctionKind.apply_yields typed trivial (fun _ _ _ _ _ _ => trivial) accepted
  rwa [FunctionKind.apply_refines between other accepts value success, kinds] at yields

end Results

end Reckoner
