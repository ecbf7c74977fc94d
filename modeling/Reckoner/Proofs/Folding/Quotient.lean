import Reckoner.Proofs.Folding.Failure

/-! # Quotients of nothing

A quotient looks at its numerator first: whatever it is divided by, nothing divided is zero. Folding looks at
the divisors before any numerator is known, and makes no number of a quotient whose divisors come to a
constant that is null, zero or a failure. So a quotient whose numerator turns out to be nothing is reduced to
one that is zero, or else to no number, and which one it is can be told from the operands.
-/

namespace Reckoner

open Reckoner.Tree

/-- The operator of an operation, its first operand and the others. -/
def Tree.quotient? : Tree → Option (Operator × Tree × List Tree)
  | .operation operator (numerator :: divisors) => some (operator, numerator, divisors)
  | _ => none

theorem Tree.eq_of_quotient? {tree numerator : Tree} {operator : Operator} {divisors : List Tree}
    (parts : tree.quotient? = some (operator, numerator, divisors)) :
    tree = .operation operator (numerator :: divisors) := by
  unfold quotient? at parts
  split at parts
  · cases parts
    rfl
  · cases parts

/-- A quotient of nothing is zero, whatever the divisors are and whether or not they evaluate. -/
theorem Tree.outcome_quotient_of_nothing {document : Option Json} {operator : Operator}
    {multiplication : Tag} {numerator : Tree} {divisors : List Tree} {value : Value}
    (divides : operator.kind = .division multiplication) (success : numerator.outcome document = .ok value)
    (nothing : value.isNothing = true) :
    (Tree.operation operator (numerator :: divisors)).outcome document = .ok (.double Double.zero) := by
  rw [outcome, divides, OperatorKind.apply, operandsFor, divideOperands, success, Except.ok_bind, if_pos nothing]

namespace Engine

variable {engine : Engine} {document : Option Json} {operator : Operator} {multiplication : Tag}
  {numerator : Tree} {divisors : List Tree}

/-- Blocks apart, an operation becomes what its operator folds to. -/
theorem foldOperation_alike (operator : Operator) (operands : List Tree) :
    Alike (engine.foldOperation operator operands)
      (Folded.applied operator operands (operator.kind.fold? operands)) := by
  unfold foldOperation
  split
  · next fold => rw [fold]; exact engine.regroupDeep_alike _
  · next fold => rw [fold]; exact engine.regroupDeep_alike _
  · next fold => rw [fold]; exact engine.regroup_alike operator operands

/-- A folded quotient is zero if its numerator is known to be nothing, no number if its divisors are void, and
else the quotient of the numerator by the folded divisors. -/
theorem outcome_foldOperation_of_division (divides : operator.kind = .division multiplication) :
    (engine.foldOperation operator (numerator :: divisors)).outcome document =
      if numerator.literalValue?.any Value.isNothing then .ok (.double Double.zero)
      else if divisorIsVoid (divisor multiplication divisors) then .ok (.double Double.nan)
      else divideOperands (operandsFor document [numerator, divisor multiplication divisors]) := by
  rw [(foldOperation_alike operator _).outcome, Folded.applied_eq, divides, OperatorKind.fold?, foldDivision?]
  by_cases known : numerator.literalValue?.any Value.isNothing = true
  · rw [if_pos known, if_pos known, Option.map_some, Option.getD_some, Folded.result_literal, outcome]
  rw [if_neg known, if_neg known]
  by_cases void : divisorIsVoid (divisor multiplication divisors) = true
  · rw [if_pos void, if_pos void, Option.map_some, Option.getD_some, Folded.result_literal, outcome]
  rw [if_neg void, if_neg void]
  cases fold : (foldConstant? .double divideOperands [numerator, divisor multiplication divisors]).or
      (if (numerator :: divisors).length == 2 then none
      else some (.operands [numerator, divisor multiplication divisors])) with
  | some folded => exact outcome_of_pair divides fold
  | none =>
    -- Nothing is folded only where the divisor stands alone.
    have two : divisors.length = 1 := by
      simpa using (Option.or_eq_none_iff.mp fold).2
    obtain ⟨single, rfl⟩ := List.length_eq_one_iff.mp two
    rw [Option.map_none, Option.getD_none, outcome, divides, OperatorKind.apply, divisor]

/-- The reduced quotient is no number whatever its numerator is: the folded divisors are a constant that is
null, zero or a failure, and the numerator is not known to be nothing. -/
def quotientIsVoid (engine : Engine) (multiplication : Tag) (numerator : Tree) (divisors : List Tree) : Bool :=
  !(engine.reduce numerator).literalValue?.any Value.isNothing &&
    divisorIsVoid (divisor multiplication (engine.reduceAll divisors))

/-- A reduced quotient is zero over nothing, no number under a divisor that is void, and else the quotient
of what its parts are reduced to. -/
theorem outcome_reduce_of_division (divides : operator.kind = .division multiplication) :
    (engine.reduce (.operation operator (numerator :: divisors))).outcome document =
      if (engine.reduce numerator).literalValue?.any Value.isNothing then .ok (.double Double.zero)
      else if divisorIsVoid (divisor multiplication (engine.reduceAll divisors)) then .ok (.double Double.nan)
      else divideOperands (operandsFor document
        [engine.reduce numerator, divisor multiplication (engine.reduceAll divisors)]) := by
  rw [reduce, reduceAll, outcome_foldOperation_of_division divides]

/-- The reduced quotient of a numerator that stays nothing is zero, unless it is no number whatever its
numerator is. -/
theorem outcome_reduce_of_nothing (divides : operator.kind = .division multiplication) {value : Value}
    (success : (engine.reduce numerator).outcome document = .ok value) (nothing : value.isNothing = true) :
    (engine.reduce (.operation operator (numerator :: divisors))).outcome document =
      .ok (.double (if engine.quotientIsVoid multiplication numerator divisors then Double.nan
        else Double.zero)) := by
  rw [outcome_reduce_of_division divides, quotientIsVoid]
  by_cases known : (engine.reduce numerator).literalValue?.any Value.isNothing = true
  · rw [if_pos known, known, Bool.not_true, Bool.false_and, if_neg Bool.false_ne_true]
  rw [if_neg known, Bool.eq_false_iff.mpr known, Bool.not_false, Bool.true_and]
  split
  · rfl
  · rw [operandsFor, divideOperands, success, Except.ok_bind, if_pos nothing]

/-- The reduced quotient of a numerator that fails fails as well, unless it is no number whatever its
numerator is. -/
theorem outcome_reduce_of_failure (divides : operator.kind = .division multiplication) {error : EvalError}
    (failed : (engine.reduce numerator).outcome document = .error error) :
    (engine.reduce (.operation operator (numerator :: divisors))).outcome document =
      if engine.quotientIsVoid multiplication numerator divisors then .ok (.double Double.nan)
      else .error error := by
  have unknown : ¬ (engine.reduce numerator).literalValue?.any Value.isNothing = true := by
    intro known
    obtain ⟨value, found, _⟩ := (Option.any_eq_true _ _).mp known
    exact Except.ok_ne_error value error ((outcome_of_literalValue? found document).symm.trans failed)
  rw [outcome_reduce_of_division divides, quotientIsVoid, if_neg unknown, Bool.eq_false_iff.mpr unknown,
    Bool.not_false, Bool.true_and, operandsFor, divideOperands, failed, Except.error_bind]

/-- A numerator of longs that is nothing is still nothing when it is reduced, or overflows. -/
theorem nothing_of_agrees (agrees : engine.Agrees document numerator) {value : Value}
    (success : numerator.outcome document = .ok value) :
    (engine.reduce numerator).outcome document = .ok value ∨
      (engine.reduce numerator).outcome document = .error .overflow := by
  obtain ⟨amount, here, there⟩ := agrees
  have yields := here.outcome
  have yieldsToo := there.outcome
  dsimp only at yields yieldsToo
  rw [success] at yields
  cases result : (engine.reduce numerator).outcome document with
  | ok other =>
    rw [result] at yieldsToo
    exact .inl (congrArg _ (yieldsToo.unique yields))
  | error error =>
    rw [result] at yieldsToo
    exact .inr (congrArg _ yieldsToo)

/-- A quotient that is read, and whose numerator evaluates to null or zero, is zero. Reduced it is zero or no
number, and which one it is is known beforehand: if the reduced numerator is still null or zero, as it is if
reduction rearranges no part of it and conceals no failure in it from a function that asks for one. The
numerator may also be rearranged as long as it is made of longs and truth values alone; it can then overflow,
and nothing else. -/
theorem reduce_quotient_of_nothing {text : List Char} {document : Json} {value : Value}
    (constants : engine.ConstantsFit)
    (read : engine.parse text = .ok (.operation operator (numerator :: divisors)))
    (divides : operator.kind = .division multiplication)
    (success : numerator.outcome (some document) = .ok value) (nothing : value.isNothing = true) :
    let quotient := Tree.operation operator (numerator :: divisors)
    let result := Value.double
      (if engine.quotientIsVoid multiplication numerator divisors then Double.nan else Double.zero)
    quotient.outcome (some document) = .ok (.double Double.zero) ∧
      (∀ other, (engine.reduce numerator).outcome (some document) = .ok other → other.isNothing = true →
        (engine.reduce quotient).outcome (some document) = .ok result) ∧
      (numerator.All (engine.rearranges · = false) → Candid (some document) numerator →
        (engine.reduce quotient).outcome (some document) = .ok result) ∧
      (numerator.All (isIntegral · = true) →
        (∀ item ∈ numerator.inputs, ∃ n, item.outcome (some document) = .ok (.long n)) →
        (engine.reduce quotient).outcome (some document) = .ok result ∨
          (engine.reduce quotient).outcome (some document) = .error .overflow) := by
  intro quotient result
  have typed : numerator.Typed := by
    cases typed_of_parse constants read with
    | operation parts _ => exact parts numerator List.mem_cons_self
  refine ⟨outcome_quotient_of_nothing divides success nothing, fun other reduced => ?_, fun still candid => ?_,
    fun integral bound => ?_⟩
  · exact outcome_reduce_of_nothing divides reduced
  · have reduced := (reduce_mirrors typed still candid).operand.outcome value success
    exact outcome_reduce_of_nothing divides reduced nothing
  · rcases nothing_of_agrees (agrees_of_typed typed integral bound) success with reduced | overflow
    · exact .inl (outcome_reduce_of_nothing divides reduced nothing)
    · have failed : (engine.reduce quotient).outcome (some document) = _ :=
        outcome_reduce_of_failure divides overflow
      split at failed
      · next void =>
        left
        rw [failed]
        exact congrArg _ (congrArg _ (if_pos void).symm)
      · exact .inr failed

/-- A difference that vanishes, divided by itself, is zero, and so is what it is reduced to. -/
theorem reduce_quotient_of_difference :
    let engine := (standard 0 ⟨Date.epoch, Time.midnight⟩).addVariable "x" ⟨40, "/x", .long⟩
    let document := some (Json.object [("x", .integer 1)])
    ∃ tree, engine.parse "(x - 1) / (x - 1)".toList = .ok tree ∧
      tree.outcome document = .ok (.double Double.zero) ∧
      (engine.reduce tree).outcome document = .ok (.double Double.zero) := by
  intro engine document
  have constants : engine.ConstantsFit := constantsFit_standard 0 ⟨Date.epoch, Time.midnight⟩
  have checks : ((engine.parse "(x - 1) / (x - 1)".toList).toOption.bind Tree.quotient?).map (fun parts =>
      (parts.1.kind, decide (parts.2.1.All (engine.rearranges · = false)),
        decide (Candid document parts.2.1), (parts.2.1.outcome document).toOption,
        engine.quotientIsVoid 14 parts.2.1 parts.2.2)) =
      some (.division 14, true, true, some (.long 0), false) := by decide +kernel
  obtain ⟨⟨operator, numerator, divisors⟩, found, checks⟩ := Option.map_eq_some_iff.mp checks
  obtain ⟨tree, read, parts⟩ := Option.bind_eq_some_iff.mp found
  obtain rfl := Tree.eq_of_quotient? parts
  simp only [Prod.mk.injEq, decide_eq_true_eq, Except.toOption_eq_some_iff] at checks
  obtain ⟨divides, still, candid, success, void⟩ := checks
  have vanishes := reduce_quotient_of_nothing constants (Except.toOption_eq_some_iff.mp read) divides success rfl
  refine ⟨_, Except.toOption_eq_some_iff.mp read, vanishes.1, (vanishes.2.2.1 still candid).trans ?_⟩
  rw [void, if_neg Bool.false_ne_true]

/-- A variable over zero is zero where the variable is zero, but reduced it is no number. -/
theorem exists_void_quotient :
    let engine := (standard 0 ⟨Date.epoch, Time.midnight⟩).addVariable "x" ⟨40, "/x", .long⟩
    let document := some (Json.object [("x", .integer 0)])
    ∃ operator numerator divisors,
      engine.parse "x / 0".toList = .ok (.operation operator (numerator :: divisors)) ∧
      operator.kind = .division 14 ∧ numerator.isConstant = false ∧
      numerator.outcome document = .ok (.long 0) ∧
      (engine.reduce (.operation operator (numerator :: divisors))).outcome document =
        .ok (.double Double.nan) ∧
      Double.nan ≠ Double.zero := by
  intro engine document
  have checks : ((engine.parse "x / 0".toList).toOption.bind Tree.quotient?).map (fun parts =>
      (parts.1.kind, parts.2.1.isConstant, (parts.2.1.outcome document).toOption,
        ((engine.reduce (.operation parts.1 (parts.2.1 :: parts.2.2))).outcome document).toOption)) =
      some (.division 14, false, some (.long 0), some (.double Double.nan)) := by decide +kernel
  obtain ⟨⟨operator, numerator, divisors⟩, found, checks⟩ := Option.map_eq_some_iff.mp checks
  obtain ⟨tree, read, parts⟩ := Option.bind_eq_some_iff.mp found
  obtain rfl := Tree.eq_of_quotient? parts
  simp only [Prod.mk.injEq, Except.toOption_eq_some_iff] at checks
  obtain ⟨divides, varies, success, reduced⟩ := checks
  exact ⟨operator, numerator, divisors, Except.toOption_eq_some_iff.mp read, divides, varies, success, reduced,
    by decide⟩

end Engine

end Reckoner
