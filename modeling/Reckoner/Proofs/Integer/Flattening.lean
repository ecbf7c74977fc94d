import Reckoner.Proofs.Expression
import Reckoner.Proofs.Integer.Amount
import Mathlib.Data.List.Infix

/-! # An operation in front of its own operands

Where the first operand of a sum, a difference or a product is an operation of the same operator, its
operands may be written out in its place. Sums and products of longs are the same either way, the overflows
included. A difference first adds up what it takes away, and so meets other longs when it is flat than when
it is nested: the two have the same value where both have one, but either may overflow alone.
-/

namespace Reckoner

namespace Long

def Fits (n : Int) : Prop := -9223372036854775808 ≤ n ∧ n ≤ 9223372036854775807

instance (n : Int) : Decidable (Fits n) := inferInstanceAs (Decidable (_ ∧ _))

/-- Every sum is a long that is met while the integers are added to `start` one after the other. -/
def SumsFit (start : Int) (numbers : List Int) : Prop := ∀ taken ∈ numbers.inits, Fits (start + taken.sum)

instance (start : Int) (numbers : List Int) : Decidable (SumsFit start numbers) :=
  inferInstanceAs (Decidable (∀ taken ∈ numbers.inits, _))

theorem fits (long : Long) : Fits long.val := ⟨long.lower, long.upper⟩

theorem sumsFit_nil {start : Int} : SumsFit start [] ↔ Fits start := by
  simp only [SumsFit, List.inits, List.forall_mem_singleton, List.sum_nil, Int.add_zero]

theorem sumsFit_cons {start n : Int} {rest : List Int} :
    SumsFit start (n :: rest) ↔ Fits start ∧ SumsFit (start + n) rest := by
  simp only [SumsFit, List.inits_cons, List.forall_mem_cons, List.sum_nil, Int.add_zero, List.forall_mem_map,
    List.sum_cons, Int.add_assoc]

theorem SumsFit.start {start : Int} {numbers : List Int} (fit : SumsFit start numbers) : Fits start := by
  cases numbers with
  | nil => exact sumsFit_nil.mp fit
  | cons n rest => exact (sumsFit_cons.mp fit).1

/-- A sum that fits on the way fits at the end. -/
theorem SumsFit.total {start : Int} {numbers : List Int} (fit : SumsFit start numbers) :
    Fits (start + numbers.sum) :=
  fit numbers ((List.mem_inits _ _).mpr List.prefix_rfl)

/-- A sum fits on the way over two rows exactly if it does over the first and from its end over the second. -/
theorem sumsFit_append {start : Int} {numbers others : List Int} :
    SumsFit start (numbers ++ others) ↔ SumsFit start numbers ∧ SumsFit (start + numbers.sum) others := by
  induction numbers generalizing start with
  | nil =>
    rw [List.nil_append, List.sum_nil, Int.add_zero, sumsFit_nil]
    exact ⟨fun fit => ⟨fit.start, fit⟩, And.right⟩
  | cons n rest ih =>
    rw [List.cons_append, sumsFit_cons, sumsFit_cons, ih, List.sum_cons, Int.add_assoc, and_assoc]

/-- The integers with a long are those that fit. -/
theorem exists_ofInt?_iff {n : Int} : (∃ long, ofInt? n = some long) ↔ Fits n := by
  constructor
  · rintro ⟨long, same⟩
    exact ofInt?_eq_some_iff.mp same ▸ long.fits
  · intro fit
    exact ⟨⟨n, fit.1, fit.2⟩, ofInt?_eq_some_iff.mpr rfl⟩

/-- Longs that are added to a long one after the other have a sum if all sums on the way are longs. -/
theorem foldlM_add?_eq_some_iff {start total : Long} {longs : List Long} :
    longs.foldlM add? start = some total ↔
      SumsFit start.val (longs.map val) ∧ total.val = start.val + (longs.map val).sum := by
  induction longs generalizing start with
  | nil =>
    rw [List.foldlM_nil, List.map_nil, List.sum_nil, Int.add_zero, sumsFit_nil]
    exact ⟨fun same => ⟨start.fits, (congrArg val (Option.some.inj same)).symm⟩,
      fun same => congrArg some (ext_val same.2.symm)⟩
  | cons n rest ih =>
    rw [List.foldlM_cons, List.map_cons, sumsFit_cons, List.sum_cons, ← Int.add_assoc]
    constructor
    · intro success
      obtain ⟨next, step, later⟩ := Option.bind_eq_some_iff.mp success
      rw [← ofInt?_eq_some_iff.mp step]
      exact ⟨⟨start.fits, (ih.mp later).1⟩, (ih.mp later).2⟩
    · rintro ⟨⟨_, fit⟩, same⟩
      obtain ⟨next, step⟩ := exists_ofInt?_iff.mpr fit.start
      rw [← ofInt?_eq_some_iff.mp step] at fit same
      exact Option.bind_eq_some_iff.mpr ⟨next, step, ih.mpr ⟨fit, same⟩⟩

end Long

/-- What the operator makes of longs, in the order in which it looks at them. -/
def OperatorKind.chain? : OperatorKind → List Long → Option Long
  | addition, longs => longs.foldlM Long.add? 0
  | multiplication, longs => longs.foldlM Long.mul? 1
  | subtraction _ _, first :: rest => (rest.foldlM Long.add? 0).bind first.sub?
  | _, _ => none

/-- The operator goes through longs in a chain. -/
def OperatorKind.isChain : OperatorKind → Bool
  | addition | multiplication | subtraction _ _ => true
  | _ => false

namespace OperatorKind

/-- A sum or a product may start with what its first operands make. -/
theorem chain?_append {operator : OperatorKind} (plain : operator = addition ∨ operator = multiplication)
    (longs others : List Long) :
    ((operator.chain? longs).bind fun n => operator.chain? (n :: others)) =
      operator.chain? (longs ++ others) := by
  obtain rfl | rfl := plain
  · rw [chain?, chain?, List.foldlM_append]
    refine Option.bind_congr fun n _ => ?_
    have unit : Long.add? 0 n = some n := Long.ofInt?_eq_some_iff.mpr (Int.zero_add _).symm
    rw [chain?, List.foldlM_cons, unit, Option.bind_eq_bind, Option.bind_some]
  · rw [chain?, chain?, List.foldlM_append]
    refine Option.bind_congr fun n _ => ?_
    have unit : Long.mul? 1 n = some n := Long.ofInt?_eq_some_iff.mpr (Int.one_mul _).symm
    rw [chain?, List.foldlM_cons, unit, Option.bind_eq_bind, Option.bind_some]

/-- A difference needs the sums of what it takes away on its way. -/
theorem chain?_subtraction_eq_some_iff {addition negation : Tag} {first difference : Long}
    {rest : List Long} :
    (subtraction addition negation).chain? (first :: rest) = some difference ↔
      Long.SumsFit 0 (rest.map Long.val) ∧ difference.val = first.val - (rest.map Long.val).sum := by
  rw [chain?, Option.bind_eq_some_iff]
  constructor
  · rintro ⟨sum, added, taken⟩
    obtain ⟨fit, same⟩ := Long.foldlM_add?_eq_some_iff.mp added
    refine ⟨fit, ?_⟩
    rw [Long.ofInt?_eq_some_iff.mp taken, same]
    exact congrArg _ (Int.zero_add _)
  · rintro ⟨fit, same⟩
    obtain ⟨sum, total⟩ := Long.exists_ofInt?_iff.mpr fit.total
    have exact := Long.ofInt?_eq_some_iff.mp total
    refine ⟨sum, Long.foldlM_add?_eq_some_iff.mpr ⟨fit, exact⟩, Long.ofInt?_eq_some_iff.mpr ?_⟩
    rw [same, exact, Int.zero_add]

section Difference

variable {addition negation : Tag} {first : Long} {rest others : List Long}

/-- When a nested difference has a value: the subtrahends of each difference are added up on their own. -/
theorem chain?_nested_eq_some_iff {difference : Long} :
    (((subtraction addition negation).chain? (first :: rest)).bind fun n =>
        (subtraction addition negation).chain? (n :: others)) = some difference ↔
      Long.SumsFit 0 (rest.map Long.val) ∧ Long.Fits (first.val - (rest.map Long.val).sum) ∧
        Long.SumsFit 0 (others.map Long.val) ∧
        difference.val = first.val - (rest.map Long.val).sum - (others.map Long.val).sum := by
  simp only [Option.bind_eq_some_iff, chain?_subtraction_eq_some_iff]
  constructor
  · rintro ⟨inner, ⟨fit, same⟩, fitToo, exact⟩
    rw [← same]
    exact ⟨fit, inner.fits, fitToo, exact⟩
  · rintro ⟨fit, long, fitToo, exact⟩
    obtain ⟨inner, found⟩ := Long.exists_ofInt?_iff.mpr long
    have same := Long.ofInt?_eq_some_iff.mp found
    exact ⟨inner, ⟨fit, same⟩, fitToo, same ▸ exact⟩

/-- When a flat difference has a value: all subtrahends are added up in one row. -/
theorem chain?_flat_eq_some_iff {difference : Long} :
    (subtraction addition negation).chain? (first :: rest ++ others) = some difference ↔
      Long.SumsFit 0 (rest.map Long.val) ∧ Long.SumsFit (rest.map Long.val).sum (others.map Long.val) ∧
        difference.val = first.val - (rest.map Long.val).sum - (others.map Long.val).sum := by
  rw [List.cons_append, chain?_subtraction_eq_some_iff, List.map_append, Long.sumsFit_append, Int.zero_add,
    List.sum_append, and_assoc, Int.sub_sub]

/-- A nested difference of longs has the value of the flat one, if both have one. They are the same, overflow
or not, unless the difference is a long and its inner part can be added up, but only one of them gets to the
end: the nested one over its inner difference and the sums of what comes behind, the flat one over the sums
of what comes behind its inner sum. -/
theorem chain?_nested_eq_iff :
    (((subtraction addition negation).chain? (first :: rest)).bind fun n =>
        (subtraction addition negation).chain? (n :: others)) =
        (subtraction addition negation).chain? (first :: rest ++ others) ↔
      (Long.Fits (first.val - (rest.map Long.val).sum - (others.map Long.val).sum) →
        Long.SumsFit 0 (rest.map Long.val) →
        (Long.Fits (first.val - (rest.map Long.val).sum) ∧ Long.SumsFit 0 (others.map Long.val) ↔
          Long.SumsFit (rest.map Long.val).sum (others.map Long.val))) := by
  rw [Option.ext_iff]
  simp only [chain?_nested_eq_some_iff, chain?_flat_eq_some_iff]
  constructor
  · intro same fit inner
    obtain ⟨difference, found⟩ := Long.exists_ofInt?_iff.mpr fit
    have exact := Long.ofInt?_eq_some_iff.mp found
    have here := same difference
    constructor
    · rintro ⟨long, fitToo⟩
      exact (here.mp ⟨inner, long, fitToo, exact⟩).2.1
    · intro sums
      obtain ⟨_, long, fitToo, _⟩ := here.mpr ⟨inner, sums, exact⟩
      exact ⟨long, fitToo⟩
  · intro same difference
    constructor
    · rintro ⟨inner, long, fitToo, exact⟩
      exact ⟨inner, (same (exact ▸ difference.fits) inner).mp ⟨long, fitToo⟩, exact⟩
    · rintro ⟨inner, sums, exact⟩
      obtain ⟨long, fitToo⟩ := (same (exact ▸ difference.fits) inner).mpr sums
      exact ⟨inner, long, fitToo, exact⟩

end Difference

/-- A chain fails where its first operand does. -/
theorem apply_of_failure {operator : OperatorKind} (chain : operator.isChain = true) {operand : Operand}
    {error : EvalError} (failure : operand.outcome = .error error) (rest : List Operand) :
    operator.apply (operand :: rest) = .error error := by
  have values : Operand.values (operand :: rest) = .error error := by
    rw [Operand.values, List.mapM_cons, failure, Except.error_bind]
  cases operator with
  | addition => rw [apply, addOperands, Operand.unlessNull, values, Except.error_bind]
  | multiplication => rw [apply, multiplyOperands, Operand.unlessNull, values, Except.error_bind]
  | subtraction _ _ => rw [apply, subtractOperands, Operand.unlessNull, values, Except.error_bind]
  | _ => exact absurd chain Bool.false_ne_true

end OperatorKind

namespace Value

theorem combineLongs_map_long (combine : Long → Long → Option Long) (start : Long) (longs : List Long) :
    combineLongs combine start (longs.map .long) = Long.orOverflow (longs.foldlM combine start) := by
  induction longs generalizing start with
  | nil => rfl
  | cons n rest ih =>
    rw [List.map_cons, combineLongs, List.foldlM_cons, asLong_long, Except.ok_bind, List.foldlM_cons]
    cases combine start n with
    | none => rfl
    | some next => exact ih next

/-- A difference of longs is the chain of subtractions, where it does not overflow. -/
theorem difference_map_long (addition negation : Tag) (longs : List Long) (several : longs ≠ []) :
    difference .long (longs.map .long) =
      (Long.orOverflow ((OperatorKind.subtraction addition negation).chain? longs)).map .long := by
  obtain ⟨first, rest, rfl⟩ := List.exists_cons_of_ne_nil several
  rw [List.map_cons, difference, sum, if_pos rfl, combineLongs_map_long, OperatorKind.chain?]
  cases rest.foldlM Long.add? 0 with
  | none => rfl
  | some total => rfl

end Value

namespace Tree

variable {document : Option Json} {operator : Operator} {longs others : List Long} {operands later : List Tree}

/-- The expression is declared a long and evaluates to this one. -/
structure IsLong (document : Option Json) (n : Long) (tree : Tree) : Prop where
  kind : tree.kind = .long
  outcome : tree.outcome document = .ok (.long n)

theorem promoted_of_longs (known : List.Forall₂ (IsLong document) longs operands) :
    Kind.promoted (kinds operands) = .long := by
  rw [Kind.promoted, if_neg]
  rw [kinds_eq_map, List.contains_iff_mem, List.mem_map]
  rintro ⟨operand, member, double⟩
  obtain ⟨n, _, here⟩ := exists_of_forall₂ known member
  rw [here.kind] at double
  cases double

/-- Operands that are known longs have them as their values. -/
theorem values_of_longs (known : List.Forall₂ (IsLong document) longs operands) :
    Operand.values (operandsFor document operands) = .ok (longs.map .long) := by
  induction known with
  | nil => rfl
  | cons here _ ih =>
    rw [Operand.values] at ih ⊢
    rw [operandsFor, List.mapM_cons, here.outcome, Except.ok_bind, ih]
    rfl

theorem any_isNull_map_long (longs : List Long) : (longs.map Value.long).any Value.isNull = false := by
  rw [List.any_map, List.any_eq_false]
  exact fun _ _ => Bool.false_ne_true

/-- Over longs a chain is declared a long, and makes of them what it is to make, or overflows. -/
theorem operation_of_longs (chain : operator.kind.isChain = true) (several : operands ≠ [])
    (known : List.Forall₂ (IsLong document) longs operands) :
    (operation operator operands).kind = .long ∧
      (operation operator operands).outcome document =
        (Long.orOverflow (operator.kind.chain? longs)).map .long := by
  have long := promoted_of_longs known
  have values := values_of_longs known
  have present := any_isNull_map_long longs
  rw [kind, outcome]
  cases form : operator.kind with
  | addition =>
    refine ⟨long, ?_⟩
    rw [OperatorKind.apply, addOperands, Operand.unlessNull, values, Except.ok_bind, present,
      kinds_operandsFor, long, Value.sum, if_pos rfl, Value.combineLongs_map_long]
    rfl
  | multiplication =>
    refine ⟨long, ?_⟩
    rw [OperatorKind.apply, multiplyOperands, Operand.unlessNull, values, Except.ok_bind, present,
      kinds_operandsFor, long, Value.product, if_pos rfl, Value.combineLongs_map_long]
    rfl
  | subtraction addition negation =>
    refine ⟨long, ?_⟩
    have some : longs ≠ [] := by
      rintro rfl
      cases known
      exact several rfl
    rw [OperatorKind.apply, subtractOperands, Operand.unlessNull, values, Except.ok_bind, present,
      kinds_operandsFor, long, ← Value.difference_map_long addition negation longs some]
    rfl
  | _ =>
    rw [form] at chain
    exact absurd chain Bool.false_ne_true

/-- A chain in front of further operands goes on with what it makes. -/
theorem operation_nested (chain : operator.kind.isChain = true) (several : operands ≠ [])
    (known : List.Forall₂ (IsLong document) longs operands)
    (knownToo : List.Forall₂ (IsLong document) others later) :
    (operation operator (operation operator operands :: later)).outcome document =
      (Long.orOverflow ((operator.kind.chain? longs).bind fun n =>
        operator.kind.chain? (n :: others))).map .long := by
  obtain ⟨long, here⟩ := operation_of_longs chain several known
  cases made : operator.kind.chain? longs with
  | none =>
    rw [made] at here
    rw [outcome, operandsFor]
    exact OperatorKind.apply_of_failure chain here _
  | some n =>
    rw [made] at here
    exact (operation_of_longs chain (List.cons_ne_nil _ _) (.cons ⟨long, here⟩ knownToo)).2

/-- Sums and products of longs do not tell whether their first operands are an operation of their own: both
ways they have the same value, or both overflow. A nested and a flat difference have the same value where
both have one. If what the inner difference takes away adds up and the whole difference is a long, they are
alike exactly if this goes for both or for neither: that the inner difference is a long and what comes behind
it adds up, and that what comes behind adds up on top of what the inner difference takes away. -/
theorem outcome_nested {first : Long} {rest : List Long}
    (known : List.Forall₂ (IsLong document) (first :: rest) operands)
    (knownToo : List.Forall₂ (IsLong document) others later) :
    (operator.kind = .addition ∨ operator.kind = .multiplication →
      ∃ result,
        (operation operator (operation operator operands :: later)).outcome document =
          (Long.orOverflow result).map .long ∧
        (operation operator (operands ++ later)).outcome document = (Long.orOverflow result).map .long) ∧
    ∀ addition negation, operator.kind = .subtraction addition negation → ∃ nested flat,
      (operation operator (operation operator operands :: later)).outcome document =
        (Long.orOverflow nested).map .long ∧
      (operation operator (operands ++ later)).outcome document = (Long.orOverflow flat).map .long ∧
      (∀ n m, nested = some n → flat = some m → n = m) ∧
      (nested = flat ↔
        (Long.Fits (first.val - (rest.map Long.val).sum - (others.map Long.val).sum) →
          Long.SumsFit 0 (rest.map Long.val) →
          (Long.Fits (first.val - (rest.map Long.val).sum) ∧ Long.SumsFit 0 (others.map Long.val) ↔
            Long.SumsFit (rest.map Long.val).sum (others.map Long.val)))) := by
  have several : operands ≠ [] := by
    rintro rfl
    cases known
  have all : List.Forall₂ (IsLong document) (first :: rest ++ others) (operands ++ later) :=
    List.rel_append known knownToo
  constructor
  · intro plain
    have chain : operator.kind.isChain = true := by
      obtain same | same := plain <;> rw [same] <;> rfl
    refine ⟨operator.kind.chain? (first :: rest ++ others), ?_, ?_⟩
    · rw [operation_nested chain several known knownToo, OperatorKind.chain?_append plain]
    · exact (operation_of_longs chain (List.append_ne_nil_of_left_ne_nil several _) all).2
  · intro addition negation form
    have chain : operator.kind.isChain = true := by rw [form]; rfl
    have deep := operation_nested chain several known knownToo
    have wide := (operation_of_longs chain (List.append_ne_nil_of_left_ne_nil several _) all).2
    rw [form] at deep wide
    refine ⟨_, _, deep, wide, fun n m success successToo => ?_, OperatorKind.chain?_nested_eq_iff⟩
    have exact := (OperatorKind.chain?_nested_eq_some_iff.mp success).2.2.2
    have exactToo := (OperatorKind.chain?_flat_eq_some_iff.mp successToo).2.2
    exact Long.ext_val (exact.trans exactToo.symm)

theorem isLong_ofValue (document : Option Json) (n : Long) : (ofValue (.long n)).IsLong document n :=
  ⟨by rw [ofValue, kind]; rfl, by rw [ofValue, outcome]⟩

/-- Seven less two, less one, is what it is without the inner difference. -/
theorem outcome_nested_of_small :
    let minus : Operator := ⟨13, .subtraction 11 17⟩
    let one := ofValue (.long 1)
    let two := ofValue (.long ⟨2, by decide, by decide⟩)
    let seven := ofValue (.long ⟨7, by decide, by decide⟩)
    (operation minus [operation minus [seven, two], one]).outcome none =
      (operation minus [seven, two, one]).outcome none := by
  intro minus one two seven
  have known : List.Forall₂ (IsLong none) [⟨7, by decide, by decide⟩, ⟨2, by decide, by decide⟩]
      [seven, two] := .cons (isLong_ofValue none _) (.cons (isLong_ofValue none _) .nil)
  have knownToo : List.Forall₂ (IsLong none) [1] [one] := .cons (isLong_ofValue none 1) .nil
  obtain ⟨nested, flat, deep, wide, _, same⟩ :=
    (@outcome_nested none minus _ _ _ _ _ known knownToo).2 11 17 rfl
  have alike : nested = flat := same.mpr (by decide)
  exact deep.trans (alike ▸ wide.symm)

/-- Nothing less the greatest long, less one, is the least long; without the inner difference it overflows
over what is taken away. -/
theorem exists_unlike_nesting :
    let minus : Operator := ⟨13, .subtraction 11 17⟩
    let zero := ofValue (.long 0)
    let greatest := ofValue (.long ⟨9223372036854775807, by decide, by decide⟩)
    let one := ofValue (.long 1)
    (operation minus [operation minus [zero, greatest], one]).outcome none =
        .ok (.long ⟨-9223372036854775808, by decide, by decide⟩) ∧
      (operation minus [zero, greatest, one]).outcome none = .error .overflow :=
  ⟨rfl, rfl⟩

end Tree

end Reckoner
