import Reckoner.Proofs.Alike
import Reckoner.Proofs.Folding.Arithmetic
import Reckoner.Proofs.Folding.Function
import Reckoner.Proofs.Integer.Amount
import Mathlib.Algebra.BigOperators.Ring.List
import Mathlib.Data.List.Perm.Basic

/-! # Folding keeps exact amounts

Whatever a folding rule makes of operands that compute exact amounts computes the amount of the whole:
constants may be collected, a difference may become a sum of opposites and a coefficient may go to the
front, since the integers behind the longs do not mind. Only which longs are formed on the way differs.
-/

namespace Reckoner

open Reckoner.Tree

/-- For `document` the expression is of the amount's kind, and shows the amount unless it leaves the
longs. -/
def Tree.Computes (document : Option Json) (amount : Amount) (tree : Tree) : Prop :=
  Operand.Computes amount ⟨tree.kind, tree.outcome document⟩

/-- For `document` the expression shows the integer unless it leaves the longs. -/
def Tree.Counts (document : Option Json) (n : Int) (tree : Tree) : Prop :=
  tree.Computes document (.number n)

variable {document : Option Json} {amount : Amount} {amounts : List Amount} {numbers : List Int}
  {operands : List Tree} {operator : Operator} {folded : Folded}

namespace Tree

theorem Alike.computes {left right : Tree} (alike : Alike left right)
    (computes : right.Computes document amount) : left.Computes document amount := by
  rw [Computes, alike.kind, alike.outcome]
  exact computes

/-- A literal that shows an amount computes it. -/
theorem computes_literal {kind : Kind} {value : Value} (sort : kind = amount.kind)
    (shown : amount.Shown value) : (Tree.literal kind value).Computes document amount :=
  ⟨by rw [Tree.kind, sort], by rw [Tree.outcome]; exact shown⟩

/-- A value that is known without a document shows the amount. -/
theorem Computes.shown {tree : Tree} (computes : tree.Computes document amount) {value : Value}
    (known : tree.literalValue? = some value) : amount.Shown value := by
  have yields := computes.outcome
  rw [outcome_of_literalValue? known] at yields
  exact yields

/-- Expressions that compute amounts do so as operands. -/
theorem operandsFor_computes (computes : List.Forall₂ (Computes document) amounts operands) :
    List.Forall₂ Operand.Computes amounts (operandsFor document operands) := by
  rw [operandsFor_eq_map, List.forall₂_map_right_iff]
  exact computes

theorem kinds_of_computes (computes : List.Forall₂ (Computes document) amounts operands) :
    kinds operands = amounts.map Amount.kind := by
  rw [← kinds_operandsFor document, Operand.kinds_of_computes (operandsFor_computes computes)]

theorem forall₂_computes_iff :
    List.Forall₂ (Computes document) (numbers.map .number) operands ↔
      List.Forall₂ (Counts document) numbers operands :=
  List.forall₂_map_left_iff

/-- Integers are computed in longs. -/
theorem promoted_of_counts (counts : List.Forall₂ (Counts document) numbers operands) :
    Kind.promoted (kinds operands) = .long := by
  rw [kinds_of_computes (forall₂_computes_iff.mpr counts), Operand.promoted_of_numbers]

/-- An operation over expressions that compute amounts computes the exact amount. -/
theorem operation_computes (computes : List.Forall₂ (Computes document) amounts operands)
    (integral : operator.kind.isIntegral = true) (accepted : operator.accepts operands = true) :
    (Tree.operation operator operands).Computes document (operator.kind.exact amounts) := by
  have result := OperatorKind.apply_computes (operandsFor_computes computes) integral
    (by rwa [kinds_operandsFor])
  rwa [kinds_operandsFor] at result

/-- A call over expressions that compute amounts computes the exact amount. -/
theorem call_computes {function : Function} {fallback? : Option Value}
    (computes : List.Forall₂ (Computes document) amounts operands)
    (integral : function.kind.isIntegral = true)
    (accepted : function.kind.accepts (kinds operands) fallback? = true) :
    (Tree.call function operands).Computes document (function.kind.exact amounts) := by
  have result := FunctionKind.apply_computes (operandsFor_computes computes) integral
    (by rwa [kinds_operandsFor])
  rwa [kinds_operandsFor] at result

/-- A sum counts the sum, however many terms there are. -/
theorem sum_counts (sums : operator.kind = .addition)
    (counts : List.Forall₂ (Counts document) numbers operands) :
    (Tree.operation operator operands).Counts document numbers.sum := by
  have result := addOperands_computes (operandsFor_computes (forall₂_computes_iff.mpr counts))
  rw [kinds_operandsFor] at result
  rw [Counts, Computes, Tree.kind, Tree.outcome, sums]
  exact result

/-- A product counts the product, however many factors there are. -/
theorem product_counts (multiplies : operator.kind = .multiplication)
    (counts : List.Forall₂ (Counts document) numbers operands) :
    (Tree.operation operator operands).Counts document numbers.prod := by
  have result := multiplyOperands_computes (operandsFor_computes (forall₂_computes_iff.mpr counts))
  rw [kinds_operandsFor] at result
  rw [Counts, Computes, Tree.kind, Tree.outcome, multiplies]
  exact result

/-- The terms or factors whose values are known and the others count what all of them count. -/
theorem exists_partition (counts : List.Forall₂ (Counts document) numbers operands) :
    ∃ known others : List Int, (known ++ others).Perm numbers ∧
      List.Forall₂ (Counts document) known (operands.filter fun operand => operand.literalValue?.isSome) ∧
      List.Forall₂ Amount.Shown (known.map .number) (operands.filterMap literalValue?) ∧
      List.Forall₂ (Counts document) others
        (operands.filter fun operand => operand.literalValue?.isNone) := by
  induction counts with
  | nil => exact ⟨[], [], .nil, .nil, .nil, .nil⟩
  | @cons n operand numbers operands here _ ih =>
    obtain ⟨known, others, perm, counted, shown, rest⟩ := ih
    cases value? : operand.literalValue? with
    | some value =>
      refine ⟨n :: known, others, perm.cons n, ?_, ?_, ?_⟩
      · rw [List.filter_cons_of_pos (by rw [value?, Option.isSome_some])]
        exact .cons here counted
      · rw [List.filterMap_cons_some value?]
        exact .cons (here.shown value?) shown
      · rwa [List.filter_cons_of_neg (by rw [value?]; exact Bool.false_ne_true)]
    | none =>
      refine ⟨known, n :: others, List.perm_middle.trans (perm.cons n), ?_, ?_, ?_⟩
      · rwa [List.filter_cons_of_neg (by rw [value?]; exact Bool.false_ne_true)]
      · rwa [List.filterMap_cons_none value?]
      · rw [List.filter_cons_of_pos (by rw [value?, Option.isNone_none])]
        exact .cons here rest

end Tree

/-- Constant operands fold to the value that shows the amount of the whole. -/
theorem foldConstant?_computes {kind : Kind} {apply : List Operand → Except EvalError Value}
    {again : List Tree → Tree}
    (outcome : (again operands).outcome document = apply (operandsFor document operands))
    (sort : (again operands).kind = kind) (whole : (again operands).Computes document amount)
    (fold : foldConstant? kind apply operands = some folded) :
    (folded.result again).Computes document amount := by
  obtain ⟨constant, value, success, rfl⟩ := foldConstant?_eq_some_iff.mp fold
  have yields := whole.outcome
  dsimp only at yields
  rw [outcome, operandsFor_of_areConstant constant, success] at yields
  exact computes_literal (sort.symm.trans whole.kind) yields

/-- Collected terms count the same sum. -/
theorem foldAddition?_counts (sums : operator.kind = .addition)
    (counts : List.Forall₂ (Counts document) numbers operands)
    (fold : foldAddition? operands = some folded) :
    (folded.result (.operation operator)).Counts document numbers.sum := by
  have long := promoted_of_counts counts
  obtain ⟨known, others, perm, counted, shown, rest⟩ := exists_partition counts
  rcases Option.or_eq_some_iff.mp fold with constant | ⟨_, fold⟩
  · refine foldConstant?_computes ?_ ?_ (sum_counts sums counts) constant
    · rw [Tree.outcome, sums]; rfl
    · rw [Tree.kind, sums]; rfl
  dsimp only at fold
  split at fold
  · next null =>
    rw [Operand.any_isNull_of_shown shown, Bool.and_false] at null
    exact absurd null Bool.false_ne_true
  split at fold
  · cases fold
  · next several =>
    obtain ⟨term, success, rfl⟩ := Option.map_eq_some_iff.mp fold
    rw [promoted_of_counts counted] at success ⊢
    have yields := Value.sum_yields_exact shown
    rw [Except.toOption_eq_some_iff.mp success] at yields
    have first : (Tree.literal .long term).Counts document known.sum := computes_literal rfl yields
    obtain ⟨terms, counts, same⟩ := List.perm_comp_forall₂
      (collectAt_perm fun none => several (by rw [none]; decide)) (List.Forall₂.cons first rest).flip
    rw [Folded.result, ← perm.sum_eq, List.sum_append, ← List.sum_cons, ← same.sum_eq]
    exact sum_counts sums counts.flip

/-- A sum counts the sum whether it is folded or not. -/
theorem foldedSum_counts (operator : Operator) (sums : operator.kind = .addition)
    (counts : List.Forall₂ (Counts document) numbers operands) :
    (Folded.applied operator operands (foldAddition? operands)).Counts document numbers.sum := by
  rw [Folded.applied_eq]
  cases fold : foldAddition? operands with
  | none => exact sum_counts sums counts
  | some folded => exact foldAddition?_counts sums counts fold

/-- The opposite of a term counts the opposite integer. -/
theorem opposite?_counts {negation : Tag} {term opposite : Tree} {n : Int}
    (counts : term.Counts document n) (opposed : opposite? negation term = some opposite) :
    opposite.Counts document (-n) := by
  unfold opposite? at opposed
  split at opposed
  · next value known =>
    obtain ⟨negated, success, rfl⟩ := Option.map_eq_some_iff.mp opposed
    obtain ⟨m, rfl, same⟩ := (Computes.shown counts known).exists_long
    have yields := Long.map_orOverflow_yields fun opposite (shows : m.neg? = some opposite) =>
      (Long.ofInt?_eq_some_iff.mp shows).trans (congrArg Neg.neg same)
    rw [← Value.negate.eq_2, Except.toOption_eq_some_iff.mp success] at yields
    exact computes_literal counts.kind yields
  · obtain rfl := Option.some.inj opposed
    have operand : List.Forall₂ (Computes document) [.number n] [term] := .cons counts .nil
    have accepted : Operator.accepts ⟨negation, .negation⟩ [term] = true := by
      rw [Operator.accepts, kinds_of_computes operand]
      rfl
    exact operation_computes operand rfl accepted

/-- The opposites of terms count the opposite integers. -/
theorem opposites_count {negation : Tag} {opposites : List Tree}
    (counts : List.Forall₂ (Counts document) numbers operands)
    (opposed : operands.mapM (opposite? negation) = some opposites) :
    List.Forall₂ (Counts document) (numbers.map Neg.neg) opposites := by
  induction counts generalizing opposites with
  | nil =>
    obtain rfl := Option.some.inj opposed
    exact .nil
  | cons here _ ih =>
    obtain ⟨opposite, others, first, later, rfl⟩ := exists_of_mapM_cons opposed
    exact .cons (opposite?_counts here first) (ih later)

/-- A folded difference counts the difference. -/
theorem foldSubtraction?_computes {addition negation : Tag}
    (subtracts : operator.kind = .subtraction addition negation)
    (counts : List.Forall₂ (Counts document) numbers operands)
    (whole : (Tree.operation operator operands).Computes document
      (operator.kind.exact (numbers.map .number)))
    (fold : foldSubtraction? addition negation operands = some folded) :
    (folded.result (.operation operator)).Computes document
      (operator.kind.exact (numbers.map .number)) := by
  rcases Option.or_eq_some_iff.mp fold with constant | ⟨_, fold⟩
  · refine foldConstant?_computes ?_ ?_ whole constant
    · rw [Tree.outcome, subtracts]; rfl
    · rw [Tree.kind, subtracts]; rfl
  cases counts with
  | nil => cases fold
  | @cons n first numbers rest here later =>
    dsimp only at fold
    split at fold
    · obtain ⟨opposites, opposed, fold⟩ := Option.bind_eq_some_iff.mp fold
      obtain rfl := Option.some.inj fold
      have sum := foldedSum_counts ⟨addition, .addition⟩ rfl
        (.cons here (opposites_count later opposed))
      have same : (n :: numbers.map Neg.neg).sum = n - numbers.sum := by
        rw [List.sum_cons, ← List.sum_neg, sub_eq_add_neg]
      rw [same] at sum
      rw [subtracts, List.map_cons, OperatorKind.exact, Amount.total_map_number]
      exact sum
    · cases fold

/-- A known factor that annihilates the product is zero. -/
theorem prod_of_annihilator? {kind : Kind} {value : Value}
    (shown : List.Forall₂ Amount.Shown (numbers.map .number) (operands.filterMap literalValue?))
    (annihilates : annihilator? kind operands = some value) :
    value = Value.zero kind ∧ numbers.prod = 0 := by
  obtain ⟨factor, member, zero⟩ := List.exists_of_findSome?_eq_some annihilates
  obtain ⟨amount, inside, shows⟩ := exists_of_forall₂ shown member
  obtain ⟨n, counted, rfl⟩ := List.mem_map.mp inside
  obtain ⟨m, rfl, rfl⟩ := shows.exists_long
  split at zero
  · next vanishes =>
    rw [Value.isZero, beq_iff_eq] at vanishes
    rw [vanishes] at counted
    exact ⟨(Option.some.inj zero).symm, List.prod_eq_zero counted⟩
  · rw [shows.isNull] at zero
    cases zero

/-- A product and a sole factor count the product of the factors. -/
theorem foldedFactors_count (multiplies : operator.kind = .multiplication) {factors : List Tree} {n : Int}
    (fold : (match factors with
      | [single] => some (Folded.tree single)
      | factors => some (Folded.operands factors)) = some folded)
    (counts : ∃ numbers, List.Forall₂ (Counts document) numbers factors ∧ numbers.prod = n) :
    (folded.result (.operation operator)).Counts document n := by
  obtain ⟨numbers, counts, rfl⟩ := counts
  split at fold
  · obtain rfl := Option.some.inj fold
    obtain ⟨m, _, here, nothing, rfl⟩ := List.forall₂_cons_right_iff.mp counts
    obtain rfl := List.forall₂_nil_right_iff.mp nothing
    rwa [List.prod_singleton]
  · obtain rfl := Option.some.inj fold
    exact product_counts multiplies counts

/-- Collected factors count the same product. -/
theorem foldMultiplication?_counts (multiplies : operator.kind = .multiplication)
    (counts : List.Forall₂ (Counts document) numbers operands)
    (fold : foldMultiplication? operands = some folded) :
    (folded.result (.operation operator)).Counts document numbers.prod := by
  have long := promoted_of_counts counts
  obtain ⟨known, others, perm, counted, shown, rest⟩ := exists_partition counts
  rcases Option.or_eq_some_iff.mp fold with constant | ⟨_, fold⟩
  · refine foldConstant?_computes ?_ ?_ (product_counts multiplies counts) constant
    · rw [Tree.outcome, multiplies]; rfl
    · rw [Tree.kind, multiplies]; rfl
  rw [long] at fold
  split at fold
  · next value annihilates =>
    obtain rfl := Option.some.inj fold
    obtain ⟨rfl, zero⟩ := prod_of_annihilator? shown annihilates
    rw [← perm.prod_eq, List.prod_append, zero, Int.zero_mul]
    exact computes_literal rfl (.long 0)
  dsimp only at fold
  split at fold
  · cases fold
  obtain ⟨factor, success, fold⟩ := Option.bind_eq_some_iff.mp fold
  rw [promoted_of_counts counted] at success fold
  have yields := Value.product_yields_exact shown
  rw [Except.toOption_eq_some_iff.mp success] at yields
  split at fold
  · cases fold
  refine foldedFactors_count multiplies fold ?_
  rw [← perm.prod_eq, List.prod_append]
  split
  · exact ⟨_ :: others, .cons (computes_literal rfl yields) rest, List.prod_cons⟩
  · next dropped =>
    obtain ⟨m, rfl, same⟩ := yields.exists_long
    rw [Value.isOne, show (Kind.long == Kind.double) = false from rfl, Bool.false_and, Bool.or_false,
      Bool.not_eq_true', Bool.not_eq_false, beq_iff_eq] at dropped
    exact ⟨others, rest, by rw [← same, dropped, Int.one_mul]⟩

/-- A connective that an operand decides is what the operand decides. -/
theorem foldConnective?_computes {dominant : Bool} {truths : List Bool} {again : List Tree → Tree}
    (outcome : (again operands).outcome document =
      connective dominant (operandsFor document operands))
    (sort : (again operands).kind = .boolean)
    (computes : List.Forall₂ (Computes document) (truths.map .truth) operands)
    (whole : (again operands).Computes document
      (.truth (if dominant ∈ truths then dominant else !dominant)))
    (fold : foldConnective? dominant operands = some folded) :
    (folded.result again).Computes document
      (.truth (if dominant ∈ truths then dominant else !dominant)) := by
  rcases Option.or_eq_some_iff.mp fold with constant | ⟨_, fold⟩
  · exact foldConstant?_computes outcome sort whole constant
  split at fold
  · next decided =>
    obtain rfl := Option.some.inj fold
    obtain ⟨operand, member, decisive⟩ := List.any_eq_true.mp decided
    obtain ⟨amount, inside, here⟩ := exists_of_forall₂ computes member
    obtain ⟨truth, found, rfl⟩ := List.mem_map.mp inside
    have shown := here.shown (eq_of_beq decisive)
    cases shown
    rw [if_pos found]
    exact computes_literal rfl (.boolean dominant)
  · cases fold

/-- What an operator folds its operands to computes the amount of the whole. -/
theorem OperatorKind.fold?_computes (computes : List.Forall₂ (Computes document) amounts operands)
    (integral : operator.kind.isIntegral = true) (accepted : operator.accepts operands = true)
    (fold : operator.kind.fold? operands = some folded) :
    (folded.result (.operation operator)).Computes document (operator.kind.exact amounts) := by
  have whole := operation_computes computes integral accepted
  have outcome : (Tree.operation operator operands).outcome document =
      operator.kind.apply (operandsFor document operands) := by rw [Tree.outcome]
  have sort : (Tree.operation operator operands).kind =
      operator.kind.resultKind (kinds operands) := by rw [Tree.kind]
  have takes := accepted
  rw [Operator.accepts, kinds_of_computes computes] at takes
  cases form : operator.kind with
  | or =>
    rw [form] at whole outcome sort fold takes
    obtain ⟨truths, rfl⟩ := Amount.exists_truths (Bool.and_eq_true_iff.mp takes).2
    rw [(exact_connective truths).1] at whole ⊢
    exact foldConnective?_computes outcome sort computes whole fold
  | and =>
    rw [form] at whole outcome sort fold takes
    obtain ⟨truths, rfl⟩ := Amount.exists_truths (Bool.and_eq_true_iff.mp takes).2
    rw [(exact_connective truths).2] at whole ⊢
    exact foldConnective?_computes outcome sort computes whole fold
  | addition =>
    rw [form] at fold takes
    obtain ⟨numbers, rfl⟩ := Amount.exists_numbers (Bool.and_eq_true_iff.mp takes).2
    rw [exact, Amount.total_map_number]
    exact foldAddition?_counts form (forall₂_computes_iff.mp computes) fold
  | subtraction addition negation =>
    rw [form] at fold takes
    obtain ⟨numbers, rfl⟩ := Amount.exists_numbers (Bool.and_eq_true_iff.mp takes).2
    rw [← form]
    exact foldSubtraction?_computes form (forall₂_computes_iff.mp computes) whole fold
  | multiplication =>
    rw [form] at fold takes
    obtain ⟨numbers, rfl⟩ := Amount.exists_numbers (Bool.and_eq_true_iff.mp takes).2
    rw [exact, Amount.map_size_number]
    exact foldMultiplication?_counts form (forall₂_computes_iff.mp computes) fold
  | not | negation | comparison _ =>
    rw [form] at whole outcome sort fold
    exact foldConstant?_computes outcome sort whole fold
  | concatenation | division _ | square =>
    rw [form] at integral
    exact absurd integral Bool.false_ne_true

/-- A conditional with a known condition folds to what its chosen branch computes. -/
theorem foldConditional?_computes {again : List Tree → Tree} {fallback? : Option Value}
    (computes : List.Forall₂ (Computes document) amounts operands)
    (accepted : FunctionKind.conditional.accepts (kinds operands) fallback? = true)
    (fold : foldConditional? operands = some folded) :
    (folded.result again).Computes document (FunctionKind.conditional.exact amounts) := by
  rw [FunctionKind.accepts, kinds_of_computes computes, Bool.and_eq_true, Bool.and_eq_true, beq_iff_eq,
    List.length_map] at accepted
  obtain ⟨condition, left, right, rfl⟩ := List.length_eq_three.mp accepted.1.1
  obtain ⟨joined, sorts⟩ := Amount.joinAll?_eq accepted.2
  have sort := sorts right (List.mem_singleton_self _)
  obtain ⟨first, _, here, later, rfl⟩ := List.forall₂_cons_left_iff.mp computes
  have common := Kind.joined_eq joined
  rw [← kinds_of_computes later] at common
  obtain ⟨second, _, hereToo, last, rfl⟩ := List.forall₂_cons_left_iff.mp later
  obtain ⟨third, _, hereThree, nothing, rfl⟩ := List.forall₂_cons_left_iff.mp last
  obtain ⟨decision, known, fold⟩ := Option.bind_eq_some_iff.mp fold
  obtain ⟨truth, read, fold⟩ := Option.bind_eq_some_iff.mp fold
  have shown := here.shown known
  obtain ⟨holds, rfl⟩ := Amount.exists_truth
    (Kind.takesAll_iff.mp accepted.1.2 _ (List.mem_singleton_self _))
  cases shown
  obtain rfl := Option.some.inj read
  dsimp only at fold
  have chosen : (if (Value.boolean holds).truth? = some true then second else third).Computes document
      (if holds then left else right) := by
    cases holds
    · exact hereThree
    · exact hereToo
  have alike : (if holds then left else right).kind = left.kind := by
    cases holds
    · exact sort
    · rfl
  have declared : (if (Value.boolean holds).truth? = some true then second else third).kind = left.kind :=
    chosen.kind.trans alike
  rw [common, if_pos declared] at fold
  obtain rfl := Option.some.inj fold
  exact chosen

/-- A search for a value ends at the first one if it is known, since it is not null. -/
theorem foldFirstValue?_computes {again : List Tree → Tree} {fallback? : Option Value}
    (computes : List.Forall₂ (Computes document) amounts operands)
    (accepted : FunctionKind.noNull.accepts (kinds operands) fallback? = true)
    (fold : foldFirstValue? (Kind.joined (kinds operands)) operands = some folded) :
    (folded.result again).Computes document (FunctionKind.noNull.exact amounts) := by
  rw [FunctionKind.accepts, kinds_of_computes computes, Bool.and_eq_true] at accepted
  rw [kinds_of_computes computes] at fold
  cases computes with
  | nil => cases fold
  | cons here later =>
    rw [Kind.joined_eq (Amount.joinAll?_eq accepted.2).1, foldFirstValue?] at fold
    split at fold
    · cases fold
    · next known => cases here.shown known
    · next value _ known =>
      have shown := here.shown known
      rw [← shown.kind, Value.coerce_kind] at fold
      obtain rfl := Option.some.inj fold
      exact computes_literal shown.kind shown

/-- What a function folds its operands to computes the amount of the whole. -/
theorem FunctionKind.fold?_computes {function : Function} {fallback? : Option Value}
    (computes : List.Forall₂ (Computes document) amounts operands)
    (integral : function.kind.isIntegral = true)
    (accepted : function.kind.accepts (kinds operands) fallback? = true)
    (fold : function.kind.fold? operands = some folded) :
    (folded.result (.call function)).Computes document (function.kind.exact amounts) := by
  have whole := call_computes computes integral accepted
  have outcome : (Tree.call function operands).outcome document =
      function.kind.apply (operandsFor document operands) := by rw [Tree.outcome]
  have sort : (Tree.call function operands).kind =
      function.kind.resultKind (kinds operands) := by rw [Tree.kind]
  cases form : function.kind with
  | conditional =>
    rw [form] at accepted fold
    exact foldConditional?_computes computes accepted fold
  | noNull =>
    rw [form] at accepted fold
    exact foldFirstValue?_computes computes accepted fold
  | absolute | least | greatest =>
    rw [form] at whole outcome sort fold
    exact foldConstant?_computes outcome sort whole fold
  | _ =>
    rw [form] at integral
    exact absurd integral Bool.false_ne_true

end Reckoner
