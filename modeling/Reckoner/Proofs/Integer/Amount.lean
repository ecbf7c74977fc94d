import Reckoner.Function.Meaning
import Reckoner.Operator.Meaning
import Reckoner.Proofs.Typing.Operator
import Mathlib.Algebra.BigOperators.Group.List.Basic
import Mathlib.Algebra.Ring.Int.Defs
import Mathlib.Data.List.Forall2

/-! # Exact amounts

What operators and functions make of integers and truth values when integers have no bounds. Computed
in longs, an operand either shows its exact amount or has left the longs on the way: no order in which a
sum or a product is computed shows anything else.
-/

namespace Reckoner

/-- An integer of any size, or a truth value. -/
inductive Amount where
  | number (n : Int)
  | truth (holds : Bool)
deriving DecidableEq

namespace Amount

/-- The kind of the values that show an amount. -/
def kind : Amount → Kind
  | number _ => .long
  | truth _ => .boolean

/-- The integer; truth values count for nothing. -/
def size : Amount → Int
  | number n => n
  | truth _ => 0

/-- The truth value; integers hold of nothing. -/
def holds : Amount → Bool
  | number _ => false
  | truth holds => holds

def order : Amount → Amount → Ordering
  | number left, number right => compare left right
  | truth left, truth right => compare left right
  | _, _ => .eq

def total (amounts : List Amount) : Int := (amounts.map size).sum

inductive Shown : Amount → Value → Prop
  | long (n : Long) : Shown (number n.val) (.long n)
  | boolean (holds : Bool) : Shown (truth holds) (.boolean holds)

/-- A value that shows an amount is of the kind of the amount. -/
theorem Shown.kind {amount : Amount} {value : Value} (shown : amount.Shown value) :
    value.kind = amount.kind := by
  cases shown <;> rfl

theorem Shown.isNull {amount : Amount} {value : Value} (shown : amount.Shown value) :
    value.isNull = false := by
  cases shown <;> rfl

theorem Shown.exists_long {n : Int} {value : Value} (shown : (number n).Shown value) :
    ∃ m : Long, value = .long m ∧ m.val = n := by
  cases shown with
  | long m => exact ⟨m, rfl, rfl⟩

/-- An amount has one value at most. -/
theorem Shown.unique {amount : Amount} {value other : Value} (shown : amount.Shown value)
    (shownToo : amount.Shown other) : value = other := by
  cases shown with
  | long n =>
    obtain ⟨m, rfl, same⟩ := shownToo.exists_long
    rw [Long.ext_val same]
  | boolean holds => cases shownToo; rfl

/-- What is taken for a number is one. -/
theorem exists_number {amount : Amount} (takes : Kind.double.takes amount.kind = true) :
    ∃ n, amount = number n := by
  cases amount with
  | number n => exact ⟨n, rfl⟩
  | truth holds => exact absurd takes Bool.false_ne_true

/-- What is taken for a truth value is one. -/
theorem exists_truth {amount : Amount} (takes : Kind.boolean.takes amount.kind = true) :
    ∃ holds, amount = truth holds := by
  cases amount with
  | number n => exact absurd takes Bool.false_ne_true
  | truth holds => exact ⟨holds, rfl⟩

@[simp] theorem map_size_number (numbers : List Int) : (numbers.map number).map size = numbers := by
  rw [List.map_map, show size ∘ number = id from rfl, List.map_id]

@[simp] theorem total_map_number (numbers : List Int) : total (numbers.map number) = numbers.sum := by
  rw [total, map_size_number]

/-- Amounts of the kinds that arithmetic takes are integers. -/
theorem exists_numbers {amounts : List Amount}
    (takes : Kind.double.takesAll (amounts.map kind) = true) :
    ∃ numbers : List Int, amounts = numbers.map number := by
  induction amounts with
  | nil => exact ⟨[], rfl⟩
  | cons amount rest ih =>
    rw [Kind.takesAll, List.map_cons, List.all_cons, Bool.and_eq_true] at takes
    obtain ⟨n, rfl⟩ := exists_number takes.1
    obtain ⟨numbers, rfl⟩ := ih takes.2
    exact ⟨n :: numbers, rfl⟩

/-- Amounts of the kinds that connectives take are truth values. -/
theorem exists_truths {amounts : List Amount}
    (takes : Kind.boolean.takesAll (amounts.map kind) = true) :
    ∃ truths : List Bool, amounts = truths.map truth := by
  induction amounts with
  | nil => exact ⟨[], rfl⟩
  | cons amount rest ih =>
    rw [Kind.takesAll, List.map_cons, List.all_cons, Bool.and_eq_true] at takes
    obtain ⟨holds, rfl⟩ := exists_truth takes.1
    obtain ⟨truths, rfl⟩ := ih takes.2
    exact ⟨holds :: truths, rfl⟩

end Amount

/-- The operator computes with longs and truth values alone. -/
def OperatorKind.isIntegral : OperatorKind → Bool
  | or | and | not | comparison _ | addition | subtraction _ _ | multiplication | negation => true
  | concatenation | division _ | square => false

/-- What an operator makes of exact amounts. -/
def OperatorKind.exact (operator : OperatorKind) (amounts : List Amount) : Amount :=
  match operator, amounts with
  | or, _ => .truth (amounts.any Amount.holds)
  | and, _ => .truth (amounts.all Amount.holds)
  | not, amount :: _ => .truth (!amount.holds)
  | comparison relation, left :: right :: _ => .truth (relation.holds (left.order right))
  | addition, _ => .number (Amount.total amounts)
  | subtraction _ _, first :: rest => .number (first.size - Amount.total rest)
  | multiplication, _ => .number (amounts.map Amount.size).prod
  | negation, amount :: _ => .number (-amount.size)
  | _, _ => .truth false

def FunctionKind.isIntegral : FunctionKind → Bool
  | absolute | least | greatest | conditional | noNull => true
  | _ => false

/-- What a function makes of exact amounts. -/
def FunctionKind.exact (function : FunctionKind) (amounts : List Amount) : Amount :=
  match function, amounts with
  | absolute, amount :: _ => .number amount.size.natAbs
  | least, first :: rest => .number ((rest.map Amount.size).foldl min first.size)
  | greatest, first :: rest => .number ((rest.map Amount.size).foldl max first.size)
  | conditional, condition :: accepted :: rejected :: _ =>
    if condition.holds then accepted else rejected
  | noNull, first :: _ => first
  | _, _ => .truth false

/-- The operand is declared to be of the amount's kind, and shows the amount unless it leaves the
longs. -/
structure Operand.Computes (amount : Amount) (operand : Operand) : Prop where
  kind : operand.kind = amount.kind
  outcome : Except.Yields amount.Shown (· = .overflow) operand.outcome

namespace Operand

variable {amounts : List Amount} {operands : List Operand}

/-- Operands that compute amounts are declared to be of the kinds of the amounts. -/
theorem kinds_of_computes (computes : List.Forall₂ Computes amounts operands) :
    kinds operands = amounts.map Amount.kind := by
  induction computes with
  | nil => rfl
  | cons here _ ih => rw [kinds, List.map_cons, List.map_cons, here.kind, ← ih, kinds]

/-- Operands that compute amounts have values that show them, unless one leaves the longs. -/
theorem values_computes (computes : List.Forall₂ Computes amounts operands) :
    Except.Yields (fun values => List.Forall₂ Amount.Shown amounts values) (· = .overflow)
      (values operands) := by
  induction computes with
  | nil => exact .nil
  | cons here _ ih =>
    rw [values, List.mapM_cons]
    exact here.outcome.bind fun value _ shown => ih.bind fun values _ others => .cons shown others

theorem any_isNull_of_shown {values : List Value} (shown : List.Forall₂ Amount.Shown amounts values) :
    values.any Value.isNull = false := by
  induction shown with
  | nil => rfl
  | cons here _ ih => rw [List.any_cons, here.isNull, ih, Bool.or_self]

/-- No operand that computes is null. -/
theorem unlessNull_computes {good : Value → Prop} {compute : List Value → Except EvalError Value}
    (computes : List.Forall₂ Computes amounts operands)
    (step : ∀ values, List.Forall₂ Amount.Shown amounts values →
      Except.Yields good (· = .overflow) (compute values)) :
    Except.Yields good (· = .overflow) (unlessNull operands compute) :=
  (values_computes computes).bind fun values _ shown => by
    rw [any_isNull_of_shown shown]
    exact step values shown

/-- Amounts that are numbers are computed in longs. -/
theorem promoted_of_numbers (numbers : List Int) :
    Kind.promoted ((numbers.map Amount.number).map Amount.kind) = .long := by
  rw [Kind.promoted, if_neg]
  simp [Amount.kind]

end Operand

namespace Long

/-- A result that is there or not shows the amount it stands for. -/
theorem orOverflow_yields {n : Int} {result : Option Long} (shows : ∀ m, result = some m → m.val = n) :
    Except.Yields (fun m : Long => m.val = n) (· = .overflow) (orOverflow result) := by
  cases result with
  | none => rfl
  | some m => exact shows m rfl

theorem map_orOverflow_yields {n : Int} {result : Option Long}
    (shows : ∀ m, result = some m → m.val = n) :
    Except.Yields (Amount.number n).Shown (· = .overflow) ((orOverflow result).map .long) :=
  (orOverflow_yields shows).map fun m same => same ▸ .long m

end Long

namespace Value

/-- Longs combined one after the other show what the integers combine to. -/
theorem combineLongs_yields_exact {combine : Long → Long → Option Long} (exact : Int → Int → Int)
    (agrees : ∀ left right both, combine left right = some both → both.val = exact left.val right.val)
    {numbers : List Int} {values : List Value}
    (shown : List.Forall₂ Amount.Shown (numbers.map .number) values) (start : Long) :
    Except.Yields (fun n : Long => n.val = numbers.foldl exact start.val) (· = .overflow)
      (combineLongs combine start values) := by
  induction numbers generalizing values start with
  | nil =>
    cases shown
    rfl
  | cons n rest ih =>
    obtain ⟨value, others, here, later, rfl⟩ := List.forall₂_cons_left_iff.mp shown
    cases here
    rw [combineLongs, List.foldlM_cons]
    refine (Long.orOverflow_yields (agrees start _)).bind fun both _ same => ?_
    rw [List.foldl_cons, ← same]
    exact ih later both

/-- A sum of longs is the exact sum, or leaves the longs on the way. -/
theorem sum_yields_exact {numbers : List Int} {values : List Value}
    (shown : List.Forall₂ Amount.Shown (numbers.map .number) values) :
    Except.Yields (Amount.number numbers.sum).Shown (· = .overflow) (sum .long values) := by
  rw [sum, if_pos rfl, List.sum_eq_foldl]
  exact (combineLongs_yields_exact (· + ·)
    (fun _ _ _ both => Long.ofInt?_eq_some_iff.mp both) shown 0).map fun n same => same ▸ .long n

/-- A product of longs is the exact product, or leaves the longs on the way. -/
theorem product_yields_exact {numbers : List Int} {values : List Value}
    (shown : List.Forall₂ Amount.Shown (numbers.map .number) values) :
    Except.Yields (Amount.number numbers.prod).Shown (· = .overflow) (product .long values) := by
  rw [product, if_pos rfl, List.prod_eq_foldl]
  exact (combineLongs_yields_exact (· * ·)
    (fun _ _ _ both => Long.ofInt?_eq_some_iff.mp both) shown 1).map fun n same => same ▸ .long n

/-- A difference of longs is the exact difference, or leaves the longs on the way. -/
theorem difference_yields_exact {n : Int} {numbers : List Int} {values : List Value}
    (shown : List.Forall₂ Amount.Shown ((n :: numbers).map .number) values) :
    Except.Yields (Amount.number (n - numbers.sum)).Shown (· = .overflow)
      (difference .long values) := by
  obtain ⟨value, others, here, later, rfl⟩ := List.forall₂_cons_left_iff.mp shown
  cases here
  rw [difference]
  refine (sum_yields_exact later).bind fun rest _ same => ?_
  generalize numbers.sum = sum at same ⊢
  cases same
  exact Long.map_orOverflow_yields fun m less => Long.ofInt?_eq_some_iff.mp less

/-- Values are in the order of the amounts that they show. -/
theorem orderIn_of_shown {kind : Kind} {left right : Amount} {value other : Value}
    (sort : left.kind = kind) (sortToo : right.kind = kind) (shown : left.Shown value)
    (shownToo : right.Shown other) : orderIn kind value other = .ok (left.order right) := by
  subst sort
  cases shown <;> cases shownToo <;> first | rfl | cases sortToo

end Value

/-- A connective is decided by the truth value that dominates it. -/
theorem connectiveAfter_yields_exact (dominant : Bool) {truths : List Bool} {operands : List Operand}
    (computes : List.Forall₂ Operand.Computes (truths.map .truth) operands) :
    Except.Yields (Amount.truth (if dominant ∈ truths then dominant else !dominant)).Shown (· = .overflow)
      (connectiveAfter dominant false operands) := by
  induction truths generalizing operands with
  | nil =>
    cases computes
    exact .boolean _
  | cons holds rest ih =>
    obtain ⟨operand, others, here, later, rfl⟩ := List.forall₂_cons_left_iff.mp computes
    rw [connectiveAfter]
    refine here.outcome.bind fun value _ shown => ?_
    cases shown
    rw [Value.asTruth_boolean, Except.ok_bind]
    dsimp only
    by_cases same : holds = dominant
    · rw [if_pos same, if_pos (same ▸ List.mem_cons_self ..)]
      exact .boolean _
    · rw [if_neg same]
      have passed : dominant ∈ holds :: rest ↔ dominant ∈ rest :=
        ⟨fun member => (List.mem_cons.mp member).resolve_left (Ne.symm same), List.mem_cons_of_mem _⟩
      simp only [passed]
      exact ih later

/-- Kinds of amounts that go together are one kind. -/
theorem Amount.kind_eq_of_join? {left right : Amount}
    (together : (Kind.join? left.kind right.kind).isSome = true) :
    Kind.join? left.kind right.kind = some left.kind ∧ right.kind = left.kind := by
  cases left <;> cases right <;> first | exact ⟨rfl, rfl⟩ | exact absurd together Bool.false_ne_true

/-- The common kind of amounts is the kind of each of them. -/
theorem Amount.joinAll?_eq {first : Amount} {rest : List Amount}
    (together : (Kind.joinAll? ((first :: rest).map Amount.kind)).isSome = true) :
    Kind.joinAll? ((first :: rest).map Amount.kind) = some first.kind ∧
      ∀ amount ∈ rest, amount.kind = first.kind := by
  rw [List.map_cons, Kind.joinAll?] at together ⊢
  induction rest with
  | nil => exact ⟨rfl, List.forall_mem_nil _⟩
  | cons amount rest ih =>
    rw [List.map_cons, List.foldlM_cons] at together ⊢
    obtain ⟨common, join⟩ := Option.isSome_iff_exists.mp together
    obtain ⟨next, step, _⟩ := Option.bind_eq_some_iff.mp join
    obtain ⟨same, sort⟩ := kind_eq_of_join? (Option.isSome_of_eq_some step)
    rw [same, Option.bind_eq_bind, Option.bind_some] at together ⊢
    obtain ⟨joined, others⟩ := ih together
    exact ⟨joined, List.forall_mem_cons.mpr ⟨sort, others⟩⟩

/-- A connective over amounts holds if some or if all of them do. -/
theorem OperatorKind.exact_connective (truths : List Bool) :
    OperatorKind.or.exact (truths.map .truth) = .truth (if true ∈ truths then true else false) ∧
      OperatorKind.and.exact (truths.map .truth) = .truth (if false ∈ truths then false else true) := by
  induction truths with
  | nil => exact ⟨rfl, rfl⟩
  | cons holds rest ih =>
    simp only [exact, Amount.truth.injEq] at ih ⊢
    rw [List.map_cons, List.any_cons, List.all_cons, ih.1, ih.2]
    cases holds <;> simp [Amount.holds]

/-- The extreme of longs shows the extreme of the integers. -/
theorem extremeAfter_yields_exact {wanted : Ordering} {pick : Int → Int → Int}
    (picks : ∀ best n : Int, (compare n best = wanted → pick best n = n) ∧
      (compare n best ≠ wanted → pick best n = best))
    {numbers : List Int} {values : List Value}
    (shown : List.Forall₂ Amount.Shown (numbers.map .number) values) (best : Long) :
    Except.Yields (Amount.number (numbers.foldl pick best.val)).Shown (· = .overflow)
      (extremeAfter wanted .long (some (.long best)) values) := by
  induction numbers generalizing values best with
  | nil =>
    cases shown
    exact .long best
  | cons n rest ih =>
    obtain ⟨value, others, here, later, rfl⟩ := List.forall₂_cons_left_iff.mp shown
    obtain ⟨m, rfl, rfl⟩ := here.exists_long
    have step : extremeAfter wanted .long (some (.long best)) (.long m :: others) =
        if compare m.val best.val = wanted then extremeAfter wanted .long (some (.long m)) others
        else extremeAfter wanted .long (some (.long best)) others := rfl
    rw [step, List.foldl_cons]
    split
    · next better =>
      rw [(picks _ _).1 better]
      exact ih later m
    · next worse =>
      rw [(picks _ _).2 worse]
      exact ih later best

/-- An addition of operands that compute numbers computes the sum. -/
theorem addOperands_computes {numbers : List Int} {operands : List Operand}
    (computes : List.Forall₂ Operand.Computes (numbers.map .number) operands) :
    Operand.Computes (.number numbers.sum)
      ⟨Kind.promoted (Operand.kinds operands), addOperands operands⟩ := by
  have long : Kind.promoted (Operand.kinds operands) = .long := by
    rw [Operand.kinds_of_computes computes, Operand.promoted_of_numbers]
  rw [addOperands, long]
  exact ⟨rfl, Operand.unlessNull_computes computes fun _ => Value.sum_yields_exact⟩

/-- A multiplication of operands that compute numbers computes the product. -/
theorem multiplyOperands_computes {numbers : List Int} {operands : List Operand}
    (computes : List.Forall₂ Operand.Computes (numbers.map .number) operands) :
    Operand.Computes (.number numbers.prod)
      ⟨Kind.promoted (Operand.kinds operands), multiplyOperands operands⟩ := by
  have long : Kind.promoted (Operand.kinds operands) = .long := by
    rw [Operand.kinds_of_computes computes, Operand.promoted_of_numbers]
  rw [multiplyOperands, long]
  exact ⟨rfl, Operand.unlessNull_computes computes fun _ => Value.product_yields_exact⟩

section Meaning

variable {amounts : List Amount} {operands : List Operand}
  (computes : List.Forall₂ Operand.Computes amounts operands)

include computes

/-- Over operands of numeric kinds that compute, arithmetic is done in longs. -/
theorem Operand.exists_numbers (takes : Kind.double.takesAll (Operand.kinds operands) = true) :
    ∃ numbers : List Int, amounts = numbers.map .number ∧
      Kind.promoted (Operand.kinds operands) = .long := by
  rw [Operand.kinds_of_computes computes] at takes ⊢
  obtain ⟨numbers, rfl⟩ := Amount.exists_numbers takes
  exact ⟨numbers, rfl, Operand.promoted_of_numbers numbers⟩

/-- A sole operand of a numeric kind that computes shows an integer. -/
theorem Operand.exists_number
    (accepted : ((kinds operands).length == 1 && Kind.double.takesAll (kinds operands)) = true) :
    ∃ n operand, amounts = [.number n] ∧ operands = [operand] ∧ operand.Computes (.number n) ∧
      Kind.promoted (kinds operands) = .long := by
  obtain ⟨numbers, rfl, long⟩ := exists_numbers computes (Bool.and_eq_true_iff.mp accepted).2
  obtain ⟨operand, rfl, _⟩ := eq_singleton_of_accepts accepted
  obtain ⟨n, rfl⟩ := List.length_eq_one_iff.mp ((List.length_map _).symm.trans computes.length_eq)
  exact ⟨n, operand, rfl, rfl, (List.forall₂_cons.mp computes).1, long⟩

/-- Operands that compute make an operator compute. -/
theorem OperatorKind.apply_computes {operator : OperatorKind} (integral : operator.isIntegral = true)
    (accepted : operator.accepts (Operand.kinds operands) = true) :
    Operand.Computes (operator.exact amounts)
      ⟨operator.resultKind (Operand.kinds operands), operator.apply operands⟩ := by
  cases operator with
  | or =>
    rw [accepts, Operand.kinds_of_computes computes, Bool.and_eq_true] at accepted
    obtain ⟨truths, rfl⟩ := Amount.exists_truths accepted.2
    rw [(exact_connective truths).1]
    exact ⟨rfl, connectiveAfter_yields_exact true computes⟩
  | and =>
    rw [accepts, Operand.kinds_of_computes computes, Bool.and_eq_true] at accepted
    obtain ⟨truths, rfl⟩ := Amount.exists_truths accepted.2
    rw [(exact_connective truths).2]
    exact ⟨rfl, connectiveAfter_yields_exact false computes⟩
  | not =>
    obtain ⟨operand, rfl, takes⟩ := Operand.eq_singleton_of_accepts accepted
    obtain ⟨amount, _, here, nothing, rfl⟩ := List.forall₂_cons_right_iff.mp computes
    rw [here.kind] at takes
    obtain ⟨holds, rfl⟩ := Amount.exists_truth takes
    refine ⟨rfl, here.outcome.bind fun value _ shown => ?_⟩
    cases shown
    exact .boolean _
  | comparison relation =>
    rw [accepts, Operand.kinds_of_computes computes, Bool.and_eq_true, beq_iff_eq, List.length_map] at accepted
    obtain ⟨left, right, rfl⟩ := List.length_eq_two.mp accepted.1
    obtain ⟨joined, sorts⟩ := Amount.joinAll?_eq accepted.2
    obtain ⟨first, _, here, later, rfl⟩ := List.forall₂_cons_left_iff.mp computes
    obtain ⟨second, _, hereToo, nothing, rfl⟩ := List.forall₂_cons_left_iff.mp later
    refine ⟨rfl, here.outcome.bind fun value _ shown => hereToo.outcome.bind fun other _ shownToo => ?_⟩
    rw [Operand.kinds_of_computes computes, Kind.joined_eq joined,
      Value.orderIn_of_shown rfl (sorts right (List.mem_singleton_self _)) shown shownToo]
    exact .boolean _
  | addition =>
    obtain ⟨numbers, rfl, _⟩ := Operand.exists_numbers computes (Bool.and_eq_true_iff.mp accepted).2
    rw [exact, Amount.total_map_number]
    exact addOperands_computes computes
  | subtraction _ _ =>
    rw [accepts, Bool.and_eq_true, decide_eq_true_eq] at accepted
    obtain ⟨numbers, rfl, long⟩ := Operand.exists_numbers computes accepted.2
    cases numbers with
    | nil =>
      cases computes
      exact absurd accepted.1 (by decide)
    | cons n rest =>
      refine ⟨long, ?_⟩
      rw [apply, subtractOperands, long, List.map_cons, exact, Amount.total_map_number]
      exact Operand.unlessNull_computes computes fun _ => Value.difference_yields_exact
  | multiplication =>
    obtain ⟨numbers, rfl, _⟩ := Operand.exists_numbers computes (Bool.and_eq_true_iff.mp accepted).2
    rw [exact, Amount.map_size_number]
    exact multiplyOperands_computes computes
  | negation =>
    obtain ⟨n, operand, rfl, rfl, here, long⟩ := Operand.exists_number computes accepted
    refine ⟨long, here.outcome.bind fun value _ shown => ?_⟩
    obtain ⟨m, rfl, same⟩ := shown.exists_long
    rw [long, if_neg (fun double => absurd double.1 (by decide)), Value.negate]
    exact Long.map_orOverflow_yields fun opposite shows =>
      (Long.ofInt?_eq_some_iff.mp shows).trans (congrArg Neg.neg same)
  | _ => exact absurd integral Bool.false_ne_true

/-- The extreme operand shows the extreme of the integers that the operands show. -/
theorem extremeOperand_yields_exact (wanted : Ordering) (pick : Int → Int → Int)
    (picks : ∀ best n : Int, (compare n best = wanted → pick best n = n) ∧
      (compare n best ≠ wanted → pick best n = best))
    (accepted : (!(Operand.kinds operands).isEmpty && Kind.double.takesAll (Operand.kinds operands)) = true) :
    ∃ n rest, amounts = (n :: rest).map .number ∧ Kind.promoted (Operand.kinds operands) = .long ∧
      Except.Yields (Amount.number (rest.foldl pick n)).Shown (· = .overflow)
        (extremeOperand wanted operands) := by
  rw [Bool.and_eq_true] at accepted
  obtain ⟨numbers, rfl, long⟩ := Operand.exists_numbers computes accepted.2
  cases numbers with
  | nil =>
    cases computes
    exact absurd accepted.1 Bool.false_ne_true
  | cons n rest =>
    refine ⟨n, rest, rfl, long, (Operand.values_computes computes).bind fun values _ shown => ?_⟩
    obtain ⟨value, others, here, later, rfl⟩ := List.forall₂_cons_left_iff.mp shown
    obtain ⟨m, rfl, rfl⟩ := here.exists_long
    rw [long]
    exact extremeAfter_yields_exact picks later m

/-- Operands that compute make a function compute. -/
theorem FunctionKind.apply_computes {function : FunctionKind} {fallback? : Option Value}
    (integral : function.isIntegral = true)
    (accepted : function.accepts (Operand.kinds operands) fallback? = true) :
    Operand.Computes (function.exact amounts)
      ⟨function.resultKind (Operand.kinds operands), function.apply operands⟩ := by
  cases function with
  | absolute =>
    obtain ⟨n, operand, rfl, rfl, here, long⟩ := Operand.exists_number computes accepted
    refine ⟨long, here.outcome.bind fun value _ shown => ?_⟩
    obtain ⟨m, rfl, same⟩ := shown.exists_long
    rw [long]
    dsimp only
    rw [absoluteValue, if_pos rfl, Value.asLong_long]
    exact Long.map_orOverflow_yields fun size shows =>
      (Long.ofInt?_eq_some_iff.mp shows).trans (congrArg (fun n : Int => (n.natAbs : Int)) same)
  | least =>
    obtain ⟨n, rest, rfl, long, yields⟩ := extremeOperand_yields_exact computes .lt min
      (fun best n => by
        simp only [ne_eq, Int.compare_eq_lt]
        omega) accepted
    rw [List.map_cons, exact, Amount.map_size_number]
    exact ⟨long, yields⟩
  | greatest =>
    obtain ⟨n, rest, rfl, long, yields⟩ := extremeOperand_yields_exact computes .gt max
      (fun best n => by
        simp only [ne_eq, Int.compare_eq_gt]
        omega) accepted
    rw [List.map_cons, exact, Amount.map_size_number]
    exact ⟨long, yields⟩
  | conditional =>
    rw [accepts, Operand.kinds_of_computes computes, Bool.and_eq_true, Bool.and_eq_true, beq_iff_eq,
      List.length_map] at accepted
    obtain ⟨condition, left, right, rfl⟩ := List.length_eq_three.mp accepted.1.1
    obtain ⟨joined, sorts⟩ := Amount.joinAll?_eq accepted.2
    obtain ⟨holds, rfl⟩ := Amount.exists_truth (Kind.takesAll_iff.mp accepted.1.2 _ (List.mem_singleton_self _))
    have sort := sorts right (List.mem_singleton_self _)
    obtain ⟨first, _, here, later, rfl⟩ := List.forall₂_cons_left_iff.mp computes
    obtain ⟨second, _, hereToo, last, rfl⟩ := List.forall₂_cons_left_iff.mp later
    obtain ⟨third, _, hereThree, nothing, rfl⟩ := List.forall₂_cons_left_iff.mp last
    obtain rfl := List.forall₂_nil_left_iff.mp nothing
    have common : Kind.joined ((Operand.kinds [first, second, third]).drop 1) = left.kind := by
      rw [Operand.kinds_of_computes computes]
      exact Kind.joined_eq joined
    have branch {amount : Amount} {operand : Operand} (computes : operand.Computes amount)
        (sort : amount.kind = left.kind) :
        Except.Yields amount.Shown (· = .overflow) (operand.outcome >>= Value.coerce left.kind) :=
      computes.outcome.bind fun value _ shown => by
        rw [← sort, ← shown.kind, Value.coerce_kind]
        exact shown
    have choice : apply conditional [first, second, third] = (do
        let truth ← (← first.outcome).asTruth
        let chosen ← if truth = some true then second.outcome else third.outcome
        chosen.coerce left.kind) := by
      rw [apply, chooseOperand, ← common]
      rfl
    rw [choice]
    cases holds with
    | true =>
      refine ⟨common, here.outcome.bind fun value _ shown => ?_⟩
      cases shown
      exact branch hereToo rfl
    | false =>
      refine ⟨common.trans sort.symm, here.outcome.bind fun value _ shown => ?_⟩
      cases shown
      exact branch hereThree sort
  | noNull =>
    rw [accepts, Operand.kinds_of_computes computes, Bool.and_eq_true] at accepted
    cases computes with
    | nil => exact absurd accepted.2 Bool.false_ne_true
    | @cons first operand rest operands here later =>
      obtain ⟨joined, sorts⟩ := Amount.joinAll?_eq accepted.2
      have common : Kind.joined (Operand.kinds (operand :: operands)) = first.kind := by
        rw [Operand.kinds_of_computes (.cons here later)]
        exact Kind.joined_eq joined
      refine ⟨common, ?_⟩
      rw [apply, common, firstValue]
      refine here.outcome.bind fun value _ shown => ?_
      rw [shown.isNull, if_neg Bool.false_ne_true, ← shown.kind, Value.coerce_kind]
      exact shown
  | _ => exact absurd integral Bool.false_ne_true

end Meaning

end Reckoner
