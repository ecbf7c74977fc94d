import Reckoner.Proofs.Folding.Constant
import Reckoner.Proofs.Grammar.Standard
import Reckoner.Proofs.Writing.Exact

/-! # Folded arithmetic is well formed

An expression is formed if its names and operators are registered, its operators and functions accept
their operands, and its values hold nothing that writing loses. Sums, differences, products and quotients
of formed operands fold to formed expressions of their kind, or of null in place of a long.
-/

namespace Reckoner

open Reckoner.Tree

namespace Tree

/-- The operator or function accepts its operands, of which one that stands for a missing value is
settled. -/
def Accepted : Tree → Prop
  | operation operator operands => operator.accepts operands = true
  | call function operands => function.accepts operands = true ∧
    (function.kind = .noNull → ∀ operand ∈ operands.getLast?, operand.Settled)
  | _ => True

end Tree

namespace Engine

/-- The part is registered and, if it is to be lossless, holds nothing that writing loses. A concatenation
has an operand that is declared a text. -/
def Found (engine : Engine) (base : Tag) (lossless : Prop) : Tree → Prop
  | .literal _ value => lossless → value.Exact
  | .constant item =>
    (engine.constants.nameOf? item).isSome = true ∧ (lossless → item.value.Exact)
  | .input item => (engine.inputs.nameOf? item).isSome = true
  | .operation operator operands => (∃ entry ∈ Library.operators base, entry.operator = operator) ∧
    (operator.kind = .concatenation → Kind.string ∈ kinds operands)
  | .call function _ => (engine.functions.nameOf? function).isSome = true ∧
    (lossless → ∀ instant, function.kind = .now instant → instant.time.fraction = 0)
  | .block _ => True

/-- The part can be written, but for the order of operators. -/
structure Formed (engine : Engine) (base : Tag) (lossless : Prop) (tree : Tree) : Prop where
  found : engine.Found base lossless tree
  accepted : tree.Accepted

variable {engine : Engine} {base : Tag} {lossless : Prop} {operands : List Tree}

theorem formed_literal {kind : Kind} {value : Value} (exact : lossless → value.Exact) :
    All (engine.Formed base lossless) (.literal kind value) :=
  all_of_children ⟨exact, trivial⟩ (List.forall_mem_nil _)

/-- Without a document expressions of exact parts have exact values. -/
theorem exact_outcome {tree : Tree} (demanded : lossless) (found : All (engine.Found base lossless) tree) :
    ExactOutcome (tree.outcome none) := by
  have parts {operands : List Tree} (ih : ∀ operand ∈ operands, ExactOutcome (operand.outcome none)) :
      ∀ operand ∈ operandsFor none operands, ExactOutcome operand.outcome := by
    rw [operandsFor_eq_map, List.forall_mem_map]
    exact ih
  induction tree with
  | literal => exact .ok (found.self demanded)
  | constant => exact .ok (found.self.2 demanded)
  | input => exact .error _
  | operation operator operands ih =>
    rw [outcome]
    exact operator.kind.exact_apply (parts fun operand member =>
      ih operand member (found.within (.operand member)))
  | call function operands ih =>
    rw [outcome]
    exact function.kind.exact_apply (parts fun operand member =>
      ih operand member (found.within (.argument member))) (found.self.2 demanded)
  | block inner ih =>
    rw [outcome]
    exact ih (found.within .inside)

section Formed

variable (formed : ∀ operand ∈ operands, All (engine.Formed base lossless) operand)

include formed

/-- Formed operands whose literals have to be exact evaluate to exact values. -/
theorem exact_known (demanded : lossless) : ∀ operand ∈ known operands, ExactOutcome operand.outcome := by
  rw [known, operandsFor_eq_map, List.forall_mem_map]
  exact fun operand member => exact_outcome demanded fun part within => (formed operand member part within).found

/-- A value that an operand is known to have is exact. -/
theorem exact_of_literalValue? {operand : Tree} {value : Value} (demanded : lossless)
    (member : operand ∈ operands) (known : operand.literalValue? = some value) : value.Exact :=
  exact_outcome demanded (fun part within => (formed operand member part within).found) value
    (literalValue?_eq_some_iff.mp known).2

end Formed

/-- The expression is formed and of the kind, or of null in place of a long. -/
structure FormsAs (engine : Engine) (base : Tag) (lossless : Prop) (kind : Kind) (tree : Tree) : Prop where
  formed : All (engine.Formed base lossless) tree
  kind : tree.kind.Weakens kind

theorem FormsAs.literal {kind : Kind} {value : Value} (exact : lossless → value.Exact) :
    engine.FormsAs base lossless kind (.literal kind value) :=
  ⟨formed_literal exact, .inl (by rw [Tree.kind])⟩

end Engine

/-- An arithmetic operator accepts two or more numbers. -/
theorem Operator.accepts_arithmetic_iff {operator : Operator} {operands : List Tree}
    (arithmetic : operator.kind.isArithmetic = true) : operator.accepts operands = true ↔
      2 ≤ operands.length ∧ ∀ operand ∈ operands, Kind.double.takes operand.kind = true := by
  have numbers : operator.accepts operands =
      (decide (2 ≤ (kinds operands).length) && Kind.double.takesAll (kinds operands)) := by
    rw [accepts]
    revert arithmetic
    cases operator.kind <;> first | (intro; rfl) | exact fun other => absurd other Bool.false_ne_true
  rw [numbers, Bool.and_eq_true, decide_eq_true_eq, Kind.takesAll_iff, kinds_eq_map, List.length_map,
    List.forall_mem_map]

/-- Operands with values are evaluated to these. -/
theorem Operand.unlessNull_known {operands : List Tree} (compute : List Value → Except EvalError Value)
    (all : ∀ operand ∈ operands, operand.literalValue?.isSome = true) :
    unlessNull (Tree.known operands) compute =
      if (operands.filterMap literalValue?).any Value.isNull then .ok .null
      else compute (operands.filterMap literalValue?) := by
  have known : values (Tree.known operands) = .ok (operands.filterMap literalValue?) := by
    induction operands with
    | nil => rfl
    | cons operand rest ih =>
      obtain ⟨here, others⟩ := List.forall_mem_cons.mp all
      obtain ⟨value, known⟩ := Option.isSome_iff_exists.mp here
      have later := ih others
      rw [values, Tree.known] at later ⊢
      rw [operandsFor, List.mapM_cons, outcome_of_literalValue? known, Except.ok_bind, later,
        Except.ok_bind, List.filterMap_cons_some known]
      rfl
  rw [unlessNull, known, Except.ok_bind]

/-- Where an operator does not fold to a value although its known operands have one together, some operand
is unknown. -/
theorem exists_unknown {operands : List Tree} {kind : Kind} {result : Value}
    (compute : Kind → List Value → Except EvalError Value)
    (unfolded : foldConstant? kind (fun operands =>
      Operand.unlessNull operands (compute (Kind.promoted (Operand.kinds operands)))) operands = none)
    (present : (∀ operand ∈ operands, operand.literalValue?.isSome = true) →
      (operands.filterMap literalValue?).any Value.isNull = false)
    (success : compute (Kind.promoted (kinds (operands.filter fun operand => operand.literalValue?.isSome)))
      (operands.filterMap literalValue?) = .ok result) :
    ∃ operand ∈ operands, operand.literalValue? = none := by
  by_contra unknown
  have all : ∀ operand ∈ operands, operand.literalValue?.isSome = true := fun operand member =>
    Option.isSome_iff_ne_none.mpr fun none => unknown ⟨operand, member, none⟩
  have constant : areConstant operands = true := areConstant_iff.mpr fun operand member =>
    isConstant_of_literalValue? (all operand member)
  have evaluates : Operand.unlessNull (known operands)
      (compute (Kind.promoted (Operand.kinds (known operands)))) = .ok result := by
    rw [List.filter_eq_self.mpr all] at success
    rwa [Operand.unlessNull_known _ all, present all, if_neg Bool.false_ne_true, known, kinds_operandsFor]
  cases unfolded.symm.trans (foldConstant?_eq_some_iff.mpr ⟨constant, result, evaluates, rfl⟩)

namespace Library

variable {base : Tag} {operator : Operator}
  (registered : ∃ entry ∈ operators base, entry.operator = operator)

include registered

/-- The operators into which a registered subtraction folds are registered. -/
theorem registered_of_subtraction {addition negation : Tag}
    (subtracts : operator.kind = .subtraction addition negation) :
    (∃ entry ∈ operators base, entry.operator = ⟨addition, .addition⟩) ∧
      ∃ entry ∈ operators base, entry.operator = ⟨negation, .negation⟩ := by
  have tags : ∀ entry ∈ operators base, entry.operator.kind = .subtraction addition negation →
      addition = additionTag base ∧ negation = negationTag base := by
    simp only [operators, List.forall_mem_cons, reduceCtorEq, false_implies, true_and, and_true,
      OperatorKind.subtraction.injEq, List.not_mem_nil, implies_true]
    exact fun same => ⟨same.1.symm, same.2.symm⟩
  obtain ⟨entry, member, rfl⟩ := registered
  obtain ⟨rfl, rfl⟩ := tags entry member subtracts
  exact ⟨⟨_, mem_addition base, rfl⟩, _, mem_negation base, rfl⟩

/-- The product into which a registered division folds is registered. -/
theorem registered_of_division {multiplication : Tag} (divides : operator.kind = .division multiplication) :
    ∃ entry ∈ operators base, entry.operator = ⟨multiplication, .multiplication⟩ := by
  have tags : ∀ entry ∈ operators base, entry.operator.kind = .division multiplication →
      multiplication = multiplicationTag base := by
    simp only [operators, List.forall_mem_cons, reduceCtorEq, false_implies, true_and, and_true,
      OperatorKind.division.injEq, List.not_mem_nil, implies_true]
    exact Eq.symm
  obtain ⟨entry, member, rfl⟩ := registered
  obtain rfl := tags entry member divides
  exact ⟨_, mem_multiplication base, rfl⟩

end Library

theorem two_le_length_collectAt {term : Tree} {operands : List Tree}
    (known : (operands.filter fun operand => operand.literalValue?.isSome) ≠ [])
    (unknown : ∃ operand ∈ operands, operand.literalValue? = none) :
    2 ≤ (collectAt term operands).length := by
  obtain ⟨operand, member, none⟩ := unknown
  have other : operand ∈ operands.filter fun operand => operand.literalValue?.isNone :=
    List.mem_filter.mpr ⟨member, by rw [none, Option.isNone_none]⟩
  have positive := List.length_pos_of_mem other
  rw [(collectAt_perm known).length_eq, List.length_cons]
  omega

namespace Engine

variable {engine : Engine} {base : Tag} {lossless : Prop} {operands : List Tree} {folded : Folded}

/-- An operation is formed if its operator is registered and accepts its operands, which are formed. -/
theorem formed_operation {operator : Operator}
    (registered : ∃ entry ∈ Library.operators base, entry.operator = operator)
    (text : operator.kind = .concatenation → Kind.string ∈ kinds operands)
    (accepted : operator.accepts operands = true)
    (formed : ∀ operand ∈ operands, All (engine.Formed base lossless) operand) :
    All (engine.Formed base lossless) (.operation operator operands) :=
  all_of_children ⟨⟨registered, text⟩, accepted⟩ formed

variable (formed : ∀ operand ∈ operands, All (engine.Formed base lossless) operand)

include formed

/-- Constants that fold to their value fold to a literal of the kind, exact if the operands are. -/
theorem foldConstant?_forms {kind : Kind} {apply : List Operand → Except EvalError Value}
    {again : List Tree → Tree}
    (exact : (∀ operand ∈ known operands, ExactOutcome operand.outcome) → ExactOutcome (apply (known operands)))
    (fold : foldConstant? kind apply operands = some folded) :
    engine.FormsAs base lossless kind (folded.result again) := by
  obtain ⟨_, value, success, rfl⟩ := foldConstant?_eq_some_iff.mp fold
  exact .literal fun demanded => exact (exact_known formed demanded) value success

theorem foldLiteral?_forms {kind : Kind} {apply : List Operand → Except EvalError Value}
    {again : List Tree → Tree}
    (exact : (∀ operand ∈ known operands, ExactOutcome operand.outcome) → ExactOutcome (apply (known operands)))
    (fold : foldLiteral? kind apply operands = some folded) :
    engine.FormsAs base lossless kind (folded.result again) := by
  unfold foldLiteral? at fold
  split at fold
  · exact foldConstant?_forms formed exact fold
  · cases fold

/-- A folded sum is formed. -/
theorem foldAddition?_forms {operator : Operator} (sums : operator.kind = .addition)
    (registered : ∃ entry ∈ Library.operators base, entry.operator = operator)
    (accepted : operator.accepts operands = true) (fold : foldAddition? operands = some folded) :
    engine.FormsAs base lossless (Kind.promoted (kinds operands)) (folded.result (.operation operator)) := by
  refine ⟨?_, .inl (foldAddition?_shaped sums fold).kind⟩
  rcases Option.or_eq_some_iff.mp fold with constant | ⟨unfolded, fold⟩
  · exact (foldConstant?_forms formed (fun _ => exact_unlessNull (Value.exact_sum _)) constant).formed
  · dsimp only at fold
    split at fold
    · obtain rfl := Option.some.inj fold
      exact formed_literal fun _ => trivial
    · next mixed =>
      split at fold
      · cases fold
      · next several =>
        obtain ⟨term, success, rfl⟩ := Option.map_eq_some_iff.mp fold
        have success := Except.toOption_eq_some_iff.mp success
        have nonnull (all : ∀ operand ∈ operands, operand.literalValue?.isSome = true) :
            (operands.filterMap literalValue?).any Value.isNull = false := by
          refine Bool.eq_false_iff.mpr fun null => mixed (Bool.and_eq_true_iff.mpr ⟨?_, null⟩)
          refine List.all_eq_true.mpr fun operand member => ?_
          rw [all operand member, Bool.or_true]
        have unknown := exists_unknown Value.sum unfolded nonnull success
        have known : (operands.filter fun operand => operand.literalValue?.isSome) ≠ [] := fun none =>
          several (by rw [none]; exact Nat.zero_lt_two)
        have arithmetic : operator.kind.isArithmetic = true := by rw [sums]; rfl
        have numbers := ((Operator.accepts_arithmetic_iff arithmetic).mp accepted).2
        refine formed_operation registered (fun text => by rw [sums] at text; cases text)
          ((Operator.accepts_arithmetic_iff arithmetic).mpr
            ⟨two_le_length_collectAt known unknown, fun part member => ?_⟩) fun part member => ?_
        · rcases mem_collectAt.mp member with ⟨rfl, _⟩ | ⟨inside, _⟩
          · rw [Tree.kind]
            exact Kind.double_takes_promoted _
          · exact numbers part inside
        · rcases mem_collectAt.mp member with ⟨rfl, _⟩ | ⟨inside, _⟩
          · exact formed_literal fun _ => Value.exact_sum _ _ term success
          · exact formed part inside

/-- A sum is formed whether it is folded or not. -/
theorem sum_forms {operator : Operator} (sums : operator.kind = .addition)
    (registered : ∃ entry ∈ Library.operators base, entry.operator = operator)
    (accepted : operator.accepts operands = true) :
    engine.FormsAs base lossless (Kind.promoted (kinds operands))
      (Folded.applied operator operands (foldAddition? operands)) := by
  rw [Folded.applied_eq]
  cases fold : foldAddition? operands with
  | none =>
    refine ⟨formed_operation registered (fun text => by rw [sums] at text; cases text) accepted formed, .inl ?_⟩
    rw [Option.map_none, Option.getD_none, Tree.kind, sums, OperatorKind.resultKind]
  | some folded => exact foldAddition?_forms formed sums registered accepted fold

omit formed in
/-- The opposites of numbers are formed and numbers again. -/
theorem opposites_form {negation : Operator} (negates : negation.kind = .negation)
    (registered : ∃ entry ∈ Library.operators base, entry.operator = negation) {opposites : List Tree}
    (formed : ∀ operand ∈ operands, All (engine.Formed base lossless) operand)
    (numbers : ∀ operand ∈ operands, Kind.double.takes operand.kind = true)
    (opposed : operands.mapM (opposite? negation.tag) = some opposites) :
    opposites.length = operands.length ∧
      ∀ opposite ∈ opposites, All (engine.Formed base lossless) opposite ∧ Kind.double.takes opposite.kind = true := by
  induction operands generalizing opposites with
  | nil =>
    obtain rfl := Option.some.inj opposed
    exact ⟨rfl, List.forall_mem_nil _⟩
  | cons term rest ih =>
    obtain ⟨opposite, others, here, later, rfl⟩ := exists_of_mapM_cons opposed
    obtain ⟨formed, formedToo⟩ := List.forall_mem_cons.mp formed
    obtain ⟨number, numbers⟩ := List.forall_mem_cons.mp numbers
    obtain ⟨length, all⟩ := ih formedToo numbers later
    refine ⟨by rw [List.length_cons, List.length_cons, length], List.forall_mem_cons.mpr ⟨?_, all⟩⟩
    unfold opposite? at here
    split at here
    · obtain ⟨value, success, rfl⟩ := Option.map_eq_some_iff.mp here
      have success := Except.toOption_eq_some_iff.mp success
      exact ⟨formed_literal fun _ => Value.exact_negate _ value success, by rwa [Tree.kind]⟩
    · obtain rfl := Option.some.inj here
      have same : (⟨negation.tag, .negation⟩ : Operator) = negation := by rw [← negates]
      have accepted : negation.accepts [term] = true := by
        rw [Operator.accepts, negates, kinds, kinds, OperatorKind.accepts, Kind.takesAll, List.all_cons, number]
        rfl
      refine ⟨?_, ?_⟩
      · rw [same]
        exact formed_operation registered (fun text => by rw [negates] at text; cases text) accepted
          (List.forall_mem_singleton.mpr formed)
      · rw [Tree.kind]
        exact Kind.double_takes_promoted _

/-- A folded difference is formed. -/
theorem foldSubtraction?_forms {operator : Operator} {addition negation : Tag}
    (subtracts : operator.kind = .subtraction addition negation)
    (registered : ∃ entry ∈ Library.operators base, entry.operator = operator)
    (accepted : operator.accepts operands = true)
    (fold : foldSubtraction? addition negation operands = some folded) :
    engine.FormsAs base lossless (Kind.promoted (kinds operands)) (folded.result (.operation operator)) := by
  refine ⟨?_, .inl (foldSubtraction?_shaped _ fold).kind⟩
  have arithmetic : operator.kind.isArithmetic = true := by rw [subtracts]; rfl
  obtain ⟨several, numbers⟩ := (Operator.accepts_arithmetic_iff arithmetic).mp accepted
  obtain ⟨sum, negative⟩ := Library.registered_of_subtraction registered subtracts
  rcases Option.or_eq_some_iff.mp fold with constant | ⟨_, fold⟩
  · exact (foldConstant?_forms formed (fun _ => exact_unlessNull (Value.exact_difference _)) constant).formed
  · cases operands with
    | nil => cases fold
    | cons first rest =>
      dsimp only at fold
      split at fold
      · obtain ⟨opposites, opposed, fold⟩ := Option.bind_eq_some_iff.mp fold
        obtain rfl := Option.some.inj fold
        obtain ⟨here, others⟩ := List.forall_mem_cons.mp formed
        obtain ⟨number, numbers⟩ := List.forall_mem_cons.mp numbers
        obtain ⟨length, all⟩ := opposites_form rfl negative others numbers opposed
        refine (sum_forms ?_ rfl sum ?_).formed
        · exact List.forall_mem_cons.mpr ⟨here, fun opposite member => (all opposite member).1⟩
        · refine (Operator.accepts_arithmetic_iff rfl).mpr ⟨?_, ?_⟩
          · rw [List.length_cons] at several ⊢
            omega
          · exact List.forall_mem_cons.mpr ⟨number, fun opposite member => (all opposite member).2⟩
      · cases fold

omit formed in
/-- Factors make a product, or are the product if there is only one. -/
theorem factors_form {operator : Operator} (multiplies : operator.kind = .multiplication)
    (registered : ∃ entry ∈ Library.operators base, entry.operator = operator) {factors : List Tree}
    (fold : (match factors with
      | [single] => some (Folded.tree single)
      | factors => some (Folded.operands factors)) = some folded)
    (present : factors ≠ []) (formed : ∀ factor ∈ factors, All (engine.Formed base lossless) factor)
    (numbers : ∀ factor ∈ factors, Kind.double.takes factor.kind = true) :
    All (engine.Formed base lossless) (folded.result (.operation operator)) := by
  rcases factors with _ | ⟨first, _ | ⟨second, others⟩⟩
  · exact absurd rfl present
  · obtain rfl := Option.some.inj fold
    exact formed first (List.mem_singleton_self _)
  · obtain rfl := Option.some.inj fold
    have arithmetic : operator.kind.isArithmetic = true := by rw [multiplies]; rfl
    exact formed_operation registered (fun text => by rw [multiplies] at text; cases text)
      ((Operator.accepts_arithmetic_iff arithmetic).mpr ⟨Nat.le_add_left 2 _, numbers⟩) formed

/-- A folded product is formed. -/
theorem foldMultiplication?_forms {operator : Operator} (multiplies : operator.kind = .multiplication)
    (registered : ∃ entry ∈ Library.operators base, entry.operator = operator)
    (accepted : operator.accepts operands = true) (fold : foldMultiplication? operands = some folded) :
    engine.FormsAs base lossless (Kind.promoted (kinds operands)) (folded.result (.operation operator)) := by
  have arithmetic : operator.kind.isArithmetic = true := by rw [multiplies]; rfl
  obtain ⟨several, numbers⟩ := (Operator.accepts_arithmetic_iff arithmetic).mp accepted
  have numeric : Kind.double.takesAll (kinds operands) = true := by
    rw [Kind.takesAll_iff, kinds_eq_map, List.forall_mem_map]
    exact numbers
  refine ⟨?_, (foldMultiplication?_shaped multiplies numeric fold).kind⟩
  rcases Option.or_eq_some_iff.mp fold with constant | ⟨unfolded, fold⟩
  · exact (foldConstant?_forms formed (fun _ => exact_unlessNull (Value.exact_product _)) constant).formed
  · split at fold
    · next value annihilates =>
      obtain rfl := Option.some.inj fold
      obtain ⟨factor, member, same⟩ := List.exists_of_findSome?_eq_some annihilates
      refine formed_literal ?_
      split at same
      · obtain rfl := Option.some.inj same
        exact fun _ => Value.exact_zero _
      · split at same
        · obtain rfl := Option.some.inj same
          exact fun _ => trivial
        · cases same
    · next present =>
      dsimp only at fold
      split at fold
      · cases fold
      · next some =>
        obtain ⟨factor, success, fold⟩ := Option.bind_eq_some_iff.mp fold
        have success := Except.toOption_eq_some_iff.mp success
        split at fold
        · cases fold
        · have unknown : (operands.filter fun operand => operand.literalValue?.isNone) ≠ [] := by
            have nonnull : (operands.filterMap literalValue?).any Value.isNull = false := by
              refine List.any_eq_false.mpr fun value member null => ?_
              have other := List.findSome?_eq_none_iff.mp present value member
              rw [null, if_pos rfl] at other
              split at other <;> cases other
            obtain ⟨operand, member, none⟩ :=
              exists_unknown Value.product unfolded (fun _ => nonnull) success
            exact List.ne_nil_of_mem (List.mem_filter.mpr ⟨member, by rw [none, Option.isNone_none]⟩)
          have others {operand : Tree} (member : operand ∈ operands.filter fun operand =>
              operand.literalValue?.isNone) : operand ∈ operands := (List.mem_filter.mp member).1
          refine factors_form multiplies registered fold ?_ ?_ ?_
          · split
            · exact List.cons_ne_nil _ _
            · exact unknown
          · split
            · exact List.forall_mem_cons.mpr ⟨formed_literal fun _ => Value.exact_product _ _ factor success,
                fun operand member => formed operand (others member)⟩
            · exact fun operand member => formed operand (others member)
          · split
            · refine List.forall_mem_cons.mpr ⟨?_, fun operand member => numbers operand (others member)⟩
              rw [Tree.kind]
              exact Kind.double_takes_promoted _
            · exact fun operand member => numbers operand (others member)

omit formed in
/-- The divisors of a quotient are formed and a number as one expression. -/
theorem divisor_forms {multiplication : Tag} {divisors : List Tree} (present : divisors ≠ [])
    (registered : ∃ entry ∈ Library.operators base, entry.operator = ⟨multiplication, .multiplication⟩)
    (formed : ∀ factor ∈ divisors, All (engine.Formed base lossless) factor)
    (numbers : ∀ factor ∈ divisors, Kind.double.takes factor.kind = true) :
    All (engine.Formed base lossless) (divisor multiplication divisors) ∧
      Kind.double.takes (divisor multiplication divisors).kind = true := by
  match divisors, present with
  | [single], _ =>
    exact ⟨formed single (List.mem_singleton_self _), numbers single (List.mem_singleton_self _)⟩
  | first :: second :: others, _ =>
    have accepted : Operator.accepts ⟨multiplication, .multiplication⟩ (first :: second :: others) = true :=
      (Operator.accepts_arithmetic_iff rfl).mpr ⟨Nat.le_add_left 2 _, numbers⟩
    rw [divisor, Folded.applied_eq]
    · cases fold : foldMultiplication? (first :: second :: others) with
      | none =>
        refine ⟨formed_operation registered (fun text => by cases text) accepted formed, ?_⟩
        rw [Option.map_none, Option.getD_none, Tree.kind]
        exact Kind.double_takes_promoted _
      | some folded =>
        obtain ⟨all, kind⟩ := foldMultiplication?_forms formed rfl registered accepted fold
        exact ⟨all, kind.takes (Kind.double_takes_promoted _)⟩
    · exact fun _ same => by cases same

/-- A folded quotient is formed. -/
theorem foldDivision?_forms {operator : Operator} {multiplication : Tag}
    (divides : operator.kind = .division multiplication)
    (registered : ∃ entry ∈ Library.operators base, entry.operator = operator)
    (accepted : operator.accepts operands = true) (fold : foldDivision? multiplication operands = some folded) :
    engine.FormsAs base lossless .double (folded.result (.operation operator)) := by
  have arithmetic : operator.kind.isArithmetic = true := by rw [divides]; rfl
  obtain ⟨several, numbers⟩ := (Operator.accepts_arithmetic_iff arithmetic).mp accepted
  cases operands with
  | nil => cases fold
  | cons numerator divisors =>
    obtain ⟨here, others⟩ := List.forall_mem_cons.mp formed
    obtain ⟨number, numbers⟩ := List.forall_mem_cons.mp numbers
    have present : divisors ≠ [] := by
      rintro rfl
      exact absurd several (Nat.not_le_of_lt (Nat.lt_succ_self 1))
    obtain ⟨product, productNumber⟩ :=
      divisor_forms present (Library.registered_of_division registered divides) others numbers
    have pair := List.forall_mem_cons.mpr ⟨here, List.forall_mem_singleton.mpr product⟩
    rw [foldDivision?] at fold
    dsimp only at fold
    split at fold
    · obtain rfl := Option.some.inj fold
      exact .literal fun _ => trivial
    · split at fold
      · obtain rfl := Option.some.inj fold
        exact .literal fun _ => trivial
      · rcases Option.or_eq_some_iff.mp fold with constant | ⟨_, fold⟩
        · exact foldConstant?_forms pair (fun _ => exact_divideOperands) constant
        · split at fold
          · cases fold
          · obtain rfl := Option.some.inj fold
            refine ⟨formed_operation registered (fun text => by rw [divides] at text; cases text)
              ((Operator.accepts_arithmetic_iff arithmetic).mpr ⟨Nat.le_refl 2, ?_⟩) pair, .inl ?_⟩
            · exact List.forall_mem_cons.mpr ⟨number, List.forall_mem_singleton.mpr productNumber⟩
            · rw [Folded.result, Tree.kind, divides, OperatorKind.resultKind]

end Engine

end Reckoner
