import Reckoner.Proofs.Folding.Concealment

/-! # What folding covers

Every rule by which an operator folds its operands, failures included: products, whose factors of one may be
left out in longs, quotients, concatenations and connectives. Together with sums and differences, an operator
is folded to something that has its outcome, or it has failed and the failure is concealed.
-/

namespace Reckoner

open Reckoner.Tree

section Products

variable {document : Option Json} {operator : Operator} {operands : List Tree} {folded : Folded}
  {error : EvalError}

/-- A product vanishes because a factor is zero or null. -/
theorem exists_nothing {kind : Kind} {value : Value} (annihilates : annihilator? kind operands = some value) :
    ∃ operand ∈ operands, ∃ factor, operand.literalValue? = some factor ∧
      (factor.isZero = true ∧ value = .zero kind ∨ factor = .null ∧ value = .null) := by
  obtain ⟨factor, member, found⟩ := List.exists_of_findSome?_eq_some annihilates
  obtain ⟨operand, inside, known⟩ := List.mem_filterMap.mp member
  refine ⟨operand, inside, factor, known, ?_⟩
  split at found
  · next zero => exact .inl ⟨zero, (Option.some.inj found).symm⟩
  · split at found
    · next null => exact .inr ⟨(Value.isNull_iff factor).mp null, (Option.some.inj found).symm⟩
    · cases found

theorem Long.one_mul? (n : Long) : mul? 1 n = some n := by
  rw [mul?, ofInt?_eq_some_iff]
  exact (Int.one_mul _).symm

theorem Long.mul?_one (n : Long) : n.mul? 1 = some n := by
  rw [mul?, ofInt?_eq_some_iff]
  exact (Int.mul_one _).symm

/-- A sole factor that is null or a long is its own product. -/
theorem multiplyOperands_singleton {single : Tree} (long : Kind.promoted (kinds [single]) = .long)
    (number : ∀ value, single.outcome document = .ok value → value = .null ∨ ∃ n, value = .long n) :
    multiplyOperands (operandsFor document [single]) = single.outcome document := by
  rw [multiplyOperands, kinds_operandsFor, long]
  simp only [operandsFor, Operand.unlessNull, Operand.values, List.mapM_cons, List.mapM_nil]
  cases result : single.outcome document with
  | error error => rfl
  | ok value =>
    rcases number value result with rfl | ⟨n, rfl⟩
    · rfl
    · show Value.product .long [.long n] = _
      rw [Value.product, if_pos rfl, Value.combineLongs_cons, Long.one_mul?]
      rfl

/-- A factor of one makes no difference to a product of longs. -/
theorem Value.product_dropOne (front back : List Value) :
    product .long (front ++ .long 1 :: back) = product .long (front ++ back) := by
  rw [product, product, if_pos rfl, if_pos rfl, combineLongs, combineLongs, List.foldlM_append,
    List.foldlM_append]
  refine congrArg (Except.map long) (Except.bind_eq_bind fun total _ => ?_)
  rw [List.foldlM_cons, asLong_long, Except.ok_bind, Long.mul?_one]
  rfl

/-- Among operands none of which is a double there are none. -/
theorem promoted_of_subset {parts : List Tree} (long : Kind.promoted (kinds operands) = .long)
    (subset : ∀ part ∈ parts, part ∈ operands) : Kind.promoted (kinds parts) = .long := by
  refine (Kind.promoted_eq _).resolve_right fun double => ?_
  obtain ⟨part, member, sort⟩ := mem_kinds.mp (Kind.promoted_eq_double_iff.mp double)
  rw [Kind.promoted_eq_double_iff.mpr (mem_kinds.mpr ⟨part, subset part member, sort⟩)] at long
  cases long

/-- A factor of one may be left out of a product of longs. -/
theorem multiplyOperands_dropOne {before after : List Tree} {single : Tree}
    (one : single.literalValue? = some (.long 1))
    (long : Kind.promoted (kinds (before ++ single :: after)) = .long) :
    multiplyOperands (operandsFor document (before ++ after)) =
      multiplyOperands (operandsFor document (before ++ single :: after)) := by
  have longToo : Kind.promoted (kinds (before ++ after)) = .long :=
    promoted_of_subset long fun operand member => by
      rw [List.mem_append] at member
      rw [List.mem_append, List.mem_cons]
      exact member.imp id .inr
  rw [multiplyOperands, multiplyOperands, kinds_operandsFor, kinds_operandsFor, long, longToo,
    operandsFor_eq_map, operandsFor_eq_map, List.map_append, List.map_append, List.map_cons,
    outcome_of_literalValue? one, Operand.unlessNull, Operand.unlessNull, Operand.values, Operand.values,
    List.mapM_append, List.mapM_append, List.mapM_cons]
  cases (before.map fun tree => (⟨tree.kind, tree.outcome document⟩ : Operand)).mapM Operand.outcome with
  | error error => rfl
  | ok front =>
    cases (after.map fun tree => (⟨tree.kind, tree.outcome document⟩ : Operand)).mapM Operand.outcome with
    | error error => rfl
    | ok back =>
      show (if (front ++ back).any Value.isNull then _ else _) =
        if (front ++ .long 1 :: back).any Value.isNull then _ else _
      rw [List.any_append, List.any_append, List.any_cons,
        show (Value.long 1).isNull = false from rfl, Bool.false_or, Value.product_dropOne]

/-- A product that is neither folded to its value nor vanishes becomes its collected factor and the others, or the
others alone if what is collected is one. -/
theorem exists_factors
    (unfolded : foldConstant? (Kind.promoted (kinds operands)) multiplyOperands operands = none)
    (present : annihilator? (Kind.promoted (kinds operands)) operands = none)
    (fold : foldMultiplication? operands = some folded) :
    ∃ kind factor factors, kind = Kind.promoted (kinds (operands.filter (·.literalValue?.isSome))) ∧
      Value.product kind (operands.filterMap literalValue?) = .ok factor ∧
      (2 ≤ knownCount operands ∧
          factors = .literal kind factor :: operands.filter (·.literalValue?.isNone) ∨
        1 ≤ knownCount operands ∧ factor.isOne = true ∧
          factors = operands.filter (·.literalValue?.isNone)) ∧
      (match factors with
        | [single] => some (Folded.tree single)
        | factors => some (Folded.operands factors)) = some folded := by
  rcases Option.or_eq_some_iff.mp fold with whole | ⟨_, fold⟩
  · exact absurd (whole.symm.trans unfolded) (Option.some_ne_none _)
  rw [present] at fold
  dsimp only at fold
  split at fold
  · cases fold
  next some =>
  have one : 1 ≤ knownCount operands := List.length_pos_iff.mpr fun none => some (List.isEmpty_iff.mpr none)
  obtain ⟨factor, multiplied, fold⟩ := Option.bind_eq_some_iff.mp fold
  split at fold
  · cases fold
  next collected =>
  refine ⟨_, factor, _, rfl, Except.toOption_eq_some_iff.mp multiplied, ?_, fold⟩
  split
  · next kept =>
    refine .inl ⟨?_, rfl⟩
    rw [kept, Bool.and_true, beq_iff_eq] at collected
    rw [knownCount] at one ⊢
    omega
  · next dropped =>
    rw [Bool.or_eq_true, not_or, Bool.not_eq_true', Bool.not_eq_false] at dropped
    exact .inr ⟨one, dropped.1, rfl⟩

/-- Factors that fold to one of them or to a product of them have the outcome of the product. -/
theorem outcome_of_factors (multiplies : operator.kind = .multiplication) {factors : List Tree}
    (fold : (match factors with
      | [single] => some (Folded.tree single)
      | factors => some (Folded.operands factors)) = some folded)
    (alone : ∀ single, factors = [single] →
      multiplyOperands (operandsFor document [single]) = single.outcome document) :
    (folded.result (.operation operator)).outcome document =
      multiplyOperands (operandsFor document factors) := by
  split at fold
  · next single =>
    obtain rfl := Option.some.inj fold
    exact (alone single rfl).symm
  · obtain rfl := Option.some.inj fold
    rw [Folded.result, outcome, multiplies, OperatorKind.apply]

/-- A product over factors one of which fails, fails. -/
theorem outcome_of_factors_fails (multiplies : operator.kind = .multiplication) {factors : List Tree}
    (fold : (match factors with
      | [single] => some (Folded.tree single)
      | factors => some (Folded.operands factors)) = some folded)
    (fails : Operand.values (operandsFor document factors) = .error error) :
    (folded.result (.operation operator)).outcome document = .error error := by
  split at fold
  · obtain rfl := Option.some.inj fold
    rw [operandsFor, Operand.values_cons_eq_error_iff] at fails
    rcases fails with here | ⟨_, _, later⟩
    · exact here
    · cases later
  · obtain rfl := Option.some.inj fold
    rw [Folded.result, outcome, multiplies]
    exact Operand.unlessNull_eq_error_iff.mpr (.inl fails)

/-- A sole known operand stands between the others. -/
theorem exists_known (single : knownCount operands = 1) :
    ∃ before known after value, operands = before ++ known :: after ∧ known.literalValue? = some value ∧
      operands.filter (·.literalValue?.isSome) = [known] ∧ operands.filterMap literalValue? = [value] ∧
      operands.filter (·.literalValue?.isNone) = before ++ after := by
  obtain ⟨known, found⟩ := List.length_eq_one_iff.mp single
  obtain ⟨before, after, rfl, front, here, back⟩ := List.filter_eq_cons_iff.mp found
  obtain ⟨value, here⟩ := Option.isSome_iff_exists.mp here
  have none (operand : Tree) (unknown : ¬ operand.literalValue?.isSome = true) :
      operand.literalValue? = none := Option.not_isSome_iff_eq_none.mp unknown
  have last := List.filter_eq_nil_iff.mp back
  refine ⟨before, known, after, value, rfl, here, found, ?_, ?_⟩
  · rw [List.filterMap_append, List.filterMap_cons_some here,
      List.filterMap_eq_nil_iff.mpr fun operand member => none operand (front operand member),
      List.filterMap_eq_nil_iff.mpr fun operand member => none operand (last operand member),
      List.nil_append]
  · rw [List.filter_append, List.filter_cons_of_neg (by rw [here]; exact Bool.false_ne_true),
      List.filter_eq_self.mpr fun operand member => by rw [none operand (front operand member)]; rfl,
      List.filter_eq_self.mpr fun operand member => by rw [none operand (last operand member)]; rfl]

/-- A product of longs that is folded to its factors without a known one has lost a one. -/
theorem multiplyOperands_others (single : knownCount operands = 1)
    (long : Kind.promoted (kinds operands) = .long)
    (numeric : Kind.double.takesAll (kinds operands) = true)
    (typed : ∀ operand ∈ operandsFor document operands, operand.Typed fun _ => True) {factor : Value}
    (collected : Value.product (Kind.promoted (kinds (operands.filter (·.literalValue?.isSome))))
      (operands.filterMap literalValue?) = .ok factor) (one : factor.isOne = true) :
    multiplyOperands (operandsFor document (operands.filter (·.literalValue?.isNone))) =
      multiplyOperands (operandsFor document operands) := by
  obtain ⟨before, known, after, value, rfl, here, found, values, others⟩ := exists_known single
  rw [values, promoted_of_subset long fun part member => (List.mem_filter.mp member).1] at collected
  rw [others]
  refine multiplyOperands_dropOne ?_ long
  rcases eq_long_of_typed long numeric typed (by simp) (outcome_of_literalValue? here document) with
    rfl | ⟨n, rfl⟩
  · cases collected
  · rw [Value.product, if_pos rfl, Value.combineLongs_cons, Long.one_mul?] at collected
    obtain rfl := Except.ok.inj collected
    rw [here]
    exact congrArg (some ∘ Value.long) (Long.ext_val (eq_of_beq one))

/-- What constant factors without a product are folded to fails as they do, unless one of them is nothing. -/
theorem foldMultiplication?_fails (multiplies : operator.kind = .multiplication)
    (constant : areConstant operands = true)
    (unfolded : foldConstant? (Kind.promoted (kinds operands)) multiplyOperands operands = none)
    (present : annihilator? (Kind.promoted (kinds operands)) operands = none)
    (failed : multiplyOperands (operandsFor document operands) = .error error)
    (fold : foldMultiplication? operands = some folded) :
    (folded.result (.operation operator)).outcome document = .error error := by
  obtain ⟨kind, factor, factors, rfl, collected, shape, fold⟩ :=
    exists_factors unfolded present fold
  rcases unlessNull_fails constant failed with fails | ⟨known, _, failed⟩
  · refine outcome_of_factors_fails multiplies fold ?_
    rcases shape with ⟨_, rfl⟩ | ⟨_, _, rfl⟩
    · rw [operandsFor, Operand.values_cons_eq_error_iff]
      exact .inr ⟨factor, by rw [outcome], values_filter_isNone fails⟩
    · exact values_filter_isNone fails
  · rw [List.filter_eq_self.mpr known] at collected
    rw [kinds_operandsFor, collected] at failed
    cases failed

/-- Where no factor moves and not all are constant, at most one is known and all are longs. -/
theorem long_of_still (varying : areConstant operands = false) (still : movesFactors operands = false)
    (fold : foldMultiplication? operands = some folded) :
    ¬ 2 ≤ knownCount operands ∧ Kind.promoted (kinds operands) = .long := by
  rw [movesFactors, varying, fold, Option.isSome_some, Bool.not_false, Bool.and_self, Bool.true_and,
    Bool.or_eq_false_iff, Bool.or_eq_false_iff, decide_eq_false_iff_not] at still
  refine ⟨still.1.1, (Kind.promoted_eq _).resolve_right fun double => ?_⟩
  rw [double] at still
  cases still.2

/-- A product with a variable factor that moves no factors keeps its outcome. -/
theorem outcome_of_still (multiplies : operator.kind = .multiplication)
    (varying : areConstant operands = false) (still : movesFactors operands = false)
    (unfolded : foldConstant? (Kind.promoted (kinds operands)) multiplyOperands operands = none)
    (present : annihilator? (Kind.promoted (kinds operands)) operands = none)
    (numeric : Kind.double.takesAll (kinds operands) = true)
    (typed : ∀ operand ∈ operandsFor document operands, operand.Typed fun _ => True)
    (fold : foldMultiplication? operands = some folded) :
    (folded.result (.operation operator)).outcome document =
      multiplyOperands (operandsFor document operands) := by
  obtain ⟨few, long⟩ := long_of_still varying still fold
  obtain ⟨kind, factor, factors, rfl, collected, shape, fold⟩ :=
    exists_factors unfolded present fold
  rcases shape with ⟨several, _⟩ | ⟨some, one, rfl⟩
  · exact absurd several few
  have same := multiplyOperands_others (by omega) long numeric typed collected one
  rw [← same]
  refine outcome_of_factors multiplies fold fun alone sole => ?_
  have inside : alone ∈ operands :=
    (List.mem_filter.mp (sole ▸ List.mem_singleton_self alone)).1
  have longToo := promoted_of_subset long fun part (member : part ∈ [alone]) =>
    List.mem_singleton.mp member ▸ inside
  exact multiplyOperands_singleton longToo fun value success =>
    eq_long_of_typed long numeric typed inside success

/-- The value of a product that moves no factors is of the kind that its folded form is declared to have, even
of the kind of a sole factor. -/
theorem fits_of_still (multiplies : operator.kind = .multiplication)
    (varying : areConstant operands = false) (still : movesFactors operands = false)
    (typed : ∀ operand ∈ operandsFor document operands, operand.Typed fun _ => True)
    (fold : foldMultiplication? operands = some folded) {value : Value}
    (success : (folded.result (.operation operator)).outcome document = .ok value)
    (fits : value.Fits (Kind.promoted (kinds operands))) :
    value.Fits (folded.result (.operation operator)).kind := by
  have whole := foldConstant?_of_varying varying (Kind.promoted (kinds operands)) multiplyOperands
  cases vanishes : annihilator? (Kind.promoted (kinds operands)) operands with
  | some zero =>
    rcases Option.or_eq_some_iff.mp fold with constant | ⟨_, fold⟩
    · exact absurd (constant.symm.trans whole) (Option.some_ne_none _)
    · rw [vanishes] at fold
      obtain rfl := Option.some.inj fold
      rwa [Folded.result_literal, Tree.kind]
  | none =>
    obtain ⟨few, long⟩ := long_of_still varying still fold
    obtain ⟨_, factor, factors, rfl, _, shape, fold⟩ := exists_factors whole vanishes fold
    rcases shape with ⟨several, _⟩ | ⟨_, _, rfl⟩
    · exact absurd several few
    have inside (part : Tree) (member : part ∈ operands.filter (·.literalValue?.isNone)) : part ∈ operands :=
      (List.mem_filter.mp member).1
    split at fold
    · next single sole =>
      obtain rfl := Option.some.inj fold
      exact forall_typed_iff.mp typed single (inside single (sole ▸ List.mem_singleton_self single)) value success
    · obtain rfl := Option.some.inj fold
      rw [Folded.result, Tree.kind, multiplies, OperatorKind.resultKind, promoted_of_subset long inside]
      rwa [long] at fits

/-- A folded product covers the product unless it moves its factors. -/
theorem foldMultiplication?_covers (multiplies : operator.kind = .multiplication)
    (still : areConstant operands = true ∨ movesFactors operands = false)
    (numeric : Kind.double.takesAll (kinds operands) = true)
    (typed : ∀ operand ∈ operandsFor document operands, operand.Typed fun _ => True)
    (fold : foldMultiplication? operands = some folded) :
    Covers document operator operands (folded.result (.operation operator)) := by
  rcases Option.or_eq_some_iff.mp fold with whole | ⟨unfolded, last⟩
  · exact covers_of_foldConstant? (by rw [multiplies]; exact whole)
  rw [Covers, multiplies, OperatorKind.apply]
  cases vanishes : annihilator? (Kind.promoted (kinds operands)) operands with
  | none =>
    refine .inl ?_
    cases constant : areConstant operands with
    | true =>
      obtain ⟨error, failed⟩ := exists_error constant unfolded document
      exact (foldMultiplication?_fails multiplies constant unfolded vanishes failed fold).trans failed.symm
    | false =>
      exact outcome_of_still multiplies constant (still.resolve_left (by rw [constant]; exact Bool.false_ne_true))
        unfolded vanishes numeric typed fold
  | some value =>
    obtain ⟨operand, member, factor, known, nothing⟩ := exists_nothing vanishes
    rw [vanishes] at last
    obtain rfl := Option.some.inj last
    rw [Folded.result_literal, outcome]
    cases result : multiplyOperands (operandsFor document operands) with
    | error error =>
      refine .inr ⟨⟨error, rfl⟩, ?_⟩
      rw [OperatorKind.conceals, operandsFor_eq_map, List.any_map, List.any_eq_true]
      refine ⟨operand, member, ?_⟩
      rw [Function.comp, outcome_of_literalValue? known]
      rcases nothing with ⟨zero, _⟩ | ⟨rfl, _⟩
      · exact Bool.or_eq_true_iff.mpr (.inr zero)
      · rfl
    | ok whole =>
      have varying : areConstant operands = false := Bool.eq_false_iff.mpr fun constant => by
        obtain ⟨error, failed⟩ := exists_error constant unfolded document
        exact absurd (result.symm.trans failed) (Except.ok_ne_error _ _)
      have unmoved := still.resolve_left (by rw [varying]; exact Bool.false_ne_true)
      rw [movesFactors, varying, fold, Option.isSome_some, Bool.not_false, Bool.and_self, Bool.true_and,
        Bool.or_eq_false_iff, Bool.or_eq_false_iff, List.any_eq_false] at unmoved
      rcases nothing with ⟨zero, _⟩ | ⟨rfl, rfl⟩
      · exact absurd zero (unmoved.1.2 factor (List.mem_filterMap.mpr ⟨operand, member, known⟩))
      · exact .inl (congrArg Except.ok (eq_null_of_unlessNull member known result).symm)

end Products

section Quotients

variable {document : Option Json} {operator : Operator} {multiplication : Tag} {numerator : Tree}
  {divisors : List Tree} {folded : Folded}

/-- Divisors that are not moved have their outcome as one expression wherever there is one. -/
theorem outcome_divisor (still : areConstant divisors = true ∨ movesFactors divisors = false)
    (numeric : Kind.double.takesAll (kinds divisors) = true)
    (typed : ∀ operand ∈ operandsFor document divisors, operand.Typed fun _ => True) {value : Value}
    (success : divisorOutcome (operandsFor document divisors) = .ok value) :
    (divisor multiplication divisors).outcome document = .ok value := by
  have several (success : multiplyOperands (operandsFor document divisors) = .ok value) :
      (Folded.applied ⟨multiplication, .multiplication⟩ divisors
        (foldMultiplication? divisors)).outcome document = .ok value := by
    rw [Folded.applied_eq]
    cases fold : foldMultiplication? divisors with
    | none =>
      rw [Option.map_none, Option.getD_none, outcome]
      exact success
    | some folded =>
      have covers : Covers document ⟨multiplication, .multiplication⟩ divisors (folded.result _) :=
        foldMultiplication?_covers rfl still numeric typed fold
      rcases covers with same | ⟨⟨error, failed⟩, _⟩
      · exact same.trans success
      · exact absurd (success.symm.trans failed) (Except.ok_ne_error _ _)
  rcases divisors with _ | ⟨single, _ | ⟨second, rest⟩⟩
  · exact several success
  · exact success
  · exact several success

/-- A void divisor has no value, or it is null or zero. -/
theorem isNothing_of_void {product : Tree} {value : Value} (void : divisorIsVoid product = true)
    (success : product.outcome document = .ok value) : value.isNothing = true := by
  rw [divisorIsVoid, Bool.and_eq_true] at void
  rw [outcome_of_isConstant void.1] at success
  rw [literalValue?_eq_some_iff.mpr ⟨void.1, success⟩, Option.all_some] at void
  exact void.2

/-- A quotient that is folded without a look at its values divides by one expression. -/
theorem outcome_of_pair {operands : List Tree} {product : Tree} (divides : operator.kind = .division multiplication)
    (fold : (foldConstant? .double divideOperands [numerator, product]).or
      (if operands.length == 2 then none else some (.operands [numerator, product])) = some folded) :
    (folded.result (.operation operator)).outcome document =
      divideOperands (operandsFor document [numerator, product]) := by
  rcases Option.or_eq_some_iff.mp fold with whole | ⟨_, fold⟩
  · obtain ⟨constant, value, success, rfl⟩ := foldConstant?_eq_some_iff.mp whole
    rw [operandsFor_of_areConstant constant, success, Folded.result_literal, outcome]
  · split at fold
    · cases fold
    · obtain rfl := Option.some.inj fold
      rw [Folded.result, outcome, divides, OperatorKind.apply]

/-- A quotient whose numerator is nothing stays zero unless it becomes no number whatever its numerator is. -/
theorem foldDivision?_of_nothing (divides : operator.kind = .division multiplication)
    (still : areConstant (numerator :: divisors) = true ∨
      operator.kind.rearranges (numerator :: divisors) = false)
    (fold : foldDivision? multiplication (numerator :: divisors) = some folded) {first : Value}
    (numerated : numerator.outcome document = .ok first) (nothing : first.isNothing = true) :
    (folded.result (.operation operator)).outcome document = .ok (.double Double.zero) := by
  rw [foldDivision?] at fold
  dsimp only at fold
  split at fold
  · obtain rfl := Option.some.inj fold
    rw [Folded.result_literal, outcome]
  next something =>
  split at fold
  · next void =>
    -- Without a known numerator the quotient has been left alone, and a known one was found to be something.
    refine absurd ?_ something
    have constant : numerator.isConstant = true := by
      rcases still with constant | unmoved
      · rw [areConstant, Bool.and_eq_true] at constant
        exact constant.1
      · rw [divides, OperatorKind.rearranges, Bool.or_eq_false_iff, void, Bool.and_true,
          Bool.not_eq_false'] at unmoved
        exact unmoved.1
    rw [outcome_of_isConstant constant] at numerated
    rwa [literalValue?_eq_some_iff.mpr ⟨constant, numerated⟩, Option.any_some]
  · rw [outcome_of_pair divides fold, operandsFor, divideOperands, numerated, Except.ok_bind, if_pos nothing]

/-- A folded quotient covers the quotient unless it moves factors among its divisors or becomes no number
whatever its numerator is. -/
theorem foldDivision?_covers (divides : operator.kind = .division multiplication)
    (still : areConstant (numerator :: divisors) = true ∨
      operator.kind.rearranges (numerator :: divisors) = false)
    (numeric : Kind.double.takesAll (kinds (numerator :: divisors)) = true)
    (typed : ∀ operand ∈ operandsFor document (numerator :: divisors), operand.Typed fun _ => True)
    (fold : foldDivision? multiplication (numerator :: divisors) = some folded) :
    Covers document operator (numerator :: divisors) (folded.result (.operation operator)) := by
  have divided {value : Value} (success : divisorOutcome (operandsFor document divisors) = .ok value) :
      (divisor multiplication divisors).outcome document = .ok value := by
    refine outcome_divisor (still.imp (fun constant => ?_) fun unmoved => ?_)
      (Bool.and_eq_true_iff.mp numeric).2 (List.forall_mem_cons.mp typed).2 success
    · rw [areConstant, Bool.and_eq_true] at constant
      exact constant.2
    · rw [divides] at unmoved
      exact (Bool.or_eq_false_iff.mp unmoved).2
  have ofNothing {first : Value} (numerated : numerator.outcome document = .ok first)
      (nothing : first.isNothing = true) := foldDivision?_of_nothing divides still fold numerated nothing
  rw [Covers, divides, OperatorKind.apply, OperatorKind.conceals, operandsFor, List.drop_one, List.tail_cons,
    divideOperands]
  rw [foldDivision?] at fold
  dsimp only at fold
  split at fold
  · next nothing =>
    obtain ⟨value, known, nothing⟩ := (Option.any_eq_true _ _).mp nothing
    have numerated := outcome_of_literalValue? known document
    rw [ofNothing numerated nothing, numerated, Except.ok_bind, if_pos nothing]
    exact .inl rfl
  split at fold
  · next void =>
    have concealed : (divisorOutcome (operandsFor document divisors)).toOption.all Value.isNothing = true := by
      cases result : divisorOutcome (operandsFor document divisors) with
      | error error => rfl
      | ok value => exact isNothing_of_void void (divided result)
    cases numerated : numerator.outcome document with
    | error error => exact .inr ⟨⟨error, rfl⟩, concealed⟩
    | ok first =>
      rw [Except.ok_bind]
      by_cases nothing : first.isNothing = true
      · exact .inl (by rw [ofNothing numerated nothing, if_pos nothing])
      · obtain rfl := Option.some.inj fold
        rw [if_neg nothing, Folded.result_literal, outcome]
        cases result : divisorOutcome (operandsFor document divisors) with
        | error error => exact .inr ⟨⟨error, rfl⟩, rfl⟩
        | ok value => exact .inl (by rw [Except.ok_bind, if_pos (isNothing_of_void void (divided result))])
  · rw [outcome_of_pair divides fold, operandsFor, divideOperands, operandsFor, operandsFor, divisorOutcome]
    cases numerator.outcome document with
    | error error => exact .inl rfl
    | ok first =>
      rw [Except.ok_bind, Except.ok_bind]
      by_cases nothing : first.isNothing = true
      · rw [if_pos nothing, if_pos nothing]
        exact .inl rfl
      · rw [if_neg nothing, if_neg nothing]
        cases result : divisorOutcome (operandsFor document divisors) with
        | error error => exact .inr ⟨⟨error, rfl⟩, rfl⟩
        | ok value => exact .inl (by rw [divided result])

/-- A folded quotient is declared a double. -/
theorem kind_of_foldDivision? {operands : List Tree} (divides : operator.kind = .division multiplication)
    (fold : foldDivision? multiplication operands = some folded) :
    (folded.result (.operation operator)).kind = .double := by
  cases operands with
  | nil => cases fold
  | cons numerator divisors =>
    rw [foldDivision?] at fold
    dsimp only at fold
    split at fold
    · obtain rfl := Option.some.inj fold
      rw [Folded.result_literal, Tree.kind]
    split at fold
    · obtain rfl := Option.some.inj fold
      rw [Folded.result_literal, Tree.kind]
    rcases Option.or_eq_some_iff.mp fold with whole | ⟨_, fold⟩
    · obtain ⟨_, value, _, rfl⟩ := foldConstant?_eq_some_iff.mp whole
      rw [Folded.result_literal, Tree.kind]
    · split at fold
      · cases fold
      · obtain rfl := Option.some.inj fold
        rw [Folded.result, Tree.kind, divides, OperatorKind.resultKind]

end Quotients

section Operators

variable {document : Option Json} {operator : Operator} {operands : List Tree} {folded : Folded}

/-- A folded connective conceals failures only behind an operand that decides it. -/
theorem foldConnective?_covers {dominant : Bool}
    (connects : operator.kind.apply = connective dominant)
    (decides : ∀ constant operands,
      operator.kind.conceals constant operands = operands.any (·.hasValue (.boolean dominant)))
    (fold : foldConnective? dominant operands = some folded) :
    Covers document operator operands (folded.result (.operation operator)) := by
  rcases Option.or_eq_some_iff.mp fold with whole | ⟨_, fold⟩
  · exact covers_of_foldConstant? (by rw [connects]; exact whole)
  · split at fold
    · next decided =>
      obtain rfl := Option.some.inj fold
      obtain ⟨operand, member, decisive⟩ := List.any_eq_true.mp decided
      have here := any_hasValue document member (eq_of_beq decisive)
      rw [Covers, connects, decides, here, Folded.result_literal, outcome]
      cases result : connective dominant (operandsFor document operands) with
      | error error => exact .inr ⟨⟨error, rfl⟩, rfl⟩
      | ok value =>
        obtain ⟨decider, inside, decides⟩ := List.any_eq_true.mp here
        exact .inl (congrArg Except.ok (eq_dominant_of_connectiveAfter
          ⟨decider, inside, Operand.hasValue_iff.mp decides⟩ result).symm)
    · cases fold

/-- Nothing but null has no text. -/
theorem Value.eq_null_of_asText {value : Value} (read : value.asText = .ok none) : value = .null := by
  cases value with
  | null => rfl
  | _ => cases read

/-- A run of texts vanishes at a null only. -/
theorem exists_null_of_joinRuns {run : Option String} (join : joinRuns? run operands = some none) :
    ∃ operand ∈ operands, operand.literalValue? = some .null := by
  induction operands generalizing run with
  | nil => cases Option.some.inj join
  | cons operand rest ih =>
    have later {run : Option String} (join : joinRuns? run rest = some none) :
        ∃ part ∈ operand :: rest, part.literalValue? = some .null :=
      (ih join).imp fun _ found => ⟨List.mem_cons_of_mem _ found.1, found.2⟩
    rw [joinRuns?] at join
    split at join
    · next value known =>
      split at join
      · exact later join
      · next read => exact ⟨operand, List.mem_cons_self .., Value.eq_null_of_asText read ▸ known⟩
      · cases join
    · obtain ⟨joined, join, none⟩ := Option.map_eq_some_iff.mp join
      rw [Option.map_eq_none_iff] at none
      exact later (none ▸ join)

/-- A folded concatenation fails where its operands do. -/
theorem foldConcatenation?_covers (concatenates : operator.kind = .concatenation)
    (several : 2 ≤ operands.length) (fold : foldConcatenation? operands = some folded) :
    Covers document operator operands (folded.result (.operation operator)) := by
  rw [Covers, concatenates, OperatorKind.apply]
  rw [foldConcatenation?] at fold
  split at fold
  · cases fold
  · next join =>
    obtain rfl := Option.some.inj fold
    obtain ⟨operand, member, null⟩ := exists_null_of_joinRuns join
    rw [Folded.result_literal, outcome]
    cases result : concatenateAfter "" (operandsFor document operands) with
    | error error => exact .inr ⟨⟨error, rfl⟩, any_hasValue _ member null⟩
    | ok value => exact .inl (congrArg Except.ok (eq_null_of_joinRuns join result).symm)
  · next joined join =>
    have same := concatenateAfter_joinRuns join document ""
    rw [Option.getD_none, String.append_empty] at same
    refine .inl ?_
    rw [← same]
    split at fold
    · cases fold
    · split at fold
      · next single =>
        obtain rfl := Option.some.inj fold
        obtain ⟨text, rfl⟩ := eq_text_of_joinRuns several join
        exact (concatenateAfter_joinedRun document "" (some text) []).symm
      · obtain rfl := Option.some.inj fold
        rw [Folded.result, outcome, concatenates, OperatorKind.apply]

/-- What an operator is folded to covers the operator unless it rearranges its operands. -/
theorem fold?_covers (still : areConstant operands = true ∨ operator.kind.rearranges operands = false)
    (accepted : operator.accepts operands = true)
    (typed : ∀ operand ∈ operandsFor document operands, operand.Typed fun _ => True)
    (fold : operator.kind.fold? operands = some folded) :
    Covers document operator operands (folded.result (.operation operator)) := by
  have accepts := accepted
  rw [Operator.accepts] at accepts
  cases form : operator.kind with
  | or | and =>
    rw [form] at fold
    exact foldConnective?_covers (by rw [form]; rfl) (by rw [form]; exact fun _ _ => rfl) fold
  | not | comparison _ | square | negation =>
    rw [form] at fold
    exact covers_of_foldConstant? (by rw [form]; exact fold)
  | concatenation =>
    rw [form] at fold accepts
    refine foldConcatenation?_covers form ?_ fold
    simpa only [kinds_eq_map, List.length_map, decide_eq_true_eq] using (Bool.and_eq_true_iff.mp accepts).1
  | addition =>
    rw [form] at fold still
    refine foldAddition?_covers form ?_ fold
    cases constant : areConstant operands with
    | true => exact .inl rfl
    | false =>
      have unmoved := still.resolve_left (by rw [constant]; exact Bool.false_ne_true)
      rw [OperatorKind.rearranges, constant, Bool.not_false, Bool.true_and, decide_eq_false_iff_not] at unmoved
      exact .inr (Nat.lt_of_not_le unmoved)
  | subtraction _ _ =>
    exact foldSubtraction?_covers form still accepted typed (by rw [form] at fold; exact fold)
  | multiplication =>
    rw [form] at fold still accepts
    exact foldMultiplication?_covers form still (Bool.and_eq_true_iff.mp accepts).2 typed fold
  | division _ =>
    rw [form] at accepts fold
    cases operands with
    | nil => cases fold
    | cons numerator divisors =>
      exact foldDivision?_covers form still (Bool.and_eq_true_iff.mp accepts).2 typed fold

/-- Folded arithmetic is declared to be of the kind that it has, or null in place of a long. -/
theorem weakens_of_fold? (arithmetic : operator.kind.isArithmetic = true)
    (accepted : operator.accepts operands = true) (fold : operator.kind.fold? operands = some folded) :
    (folded.result (.operation operator)).kind.Weakens (Tree.operation operator operands).kind := by
  rw [Operator.accepts] at accepted
  rw [Tree.kind]
  cases form : operator.kind with
  | addition => exact .inl (foldAddition?_shaped form (by rw [form] at fold; exact fold)).kind
  | subtraction _ _ => exact .inl (foldSubtraction?_shaped _ (by rw [form] at fold; exact fold)).kind
  | multiplication =>
    rw [form] at fold accepted
    exact (foldMultiplication?_shaped form (Bool.and_eq_true_iff.mp accepted).2 fold).kind
  | division _ => exact .inl (kind_of_foldDivision? form (by rw [form] at fold; exact fold))
  | _ => rw [form] at arithmetic; cases arithmetic

/-- Arithmetic that rearranges nothing keeps a value of the kind that its folded form is declared to have. -/
theorem fits_of_fold? (arithmetic : operator.kind.isArithmetic = true)
    (varying : areConstant operands = false) (still : operator.kind.rearranges operands = false)
    (typed : ∀ operand ∈ operandsFor document operands, operand.Typed fun _ => True)
    (fold : operator.kind.fold? operands = some folded) {value : Value}
    (success : (folded.result (.operation operator)).outcome document = .ok value)
    (fits : value.Fits (Tree.operation operator operands).kind) :
    value.Fits (folded.result (.operation operator)).kind := by
  rw [Tree.kind] at fits
  cases form : operator.kind with
  | addition =>
    rw [form] at fold fits
    rwa [(foldAddition?_shaped form fold).kind]
  | subtraction _ _ =>
    rw [form] at fold fits
    rwa [(foldSubtraction?_shaped _ fold).kind]
  | multiplication =>
    rw [form] at fold fits still
    exact fits_of_still form varying still typed fold success fits
  | division _ =>
    rw [form] at fold fits
    rwa [kind_of_foldDivision? form fold]
  | _ => rw [form] at arithmetic; cases arithmetic

end Operators

end Reckoner
