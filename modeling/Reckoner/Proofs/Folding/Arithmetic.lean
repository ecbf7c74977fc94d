import Reckoner.Proofs.Folding.Rules

/-! # Folding of arithmetic

Sums, differences, products and quotients of constants fold to their values. Where constants have no
value, what they fold to is constant again and of the kind of the whole, except that a product may fold
to a sole factor that is declared null.
-/

namespace Reckoner

namespace Kind

/-- Operands are computed in doubles exactly if one of them is declared a double. -/
theorem promoted_eq_double_iff {kinds : List Kind} : promoted kinds = double ↔ double ∈ kinds := by
  unfold promoted
  split
  · next found => exact ⟨fun _ => List.contains_iff_mem.mp found, fun _ => rfl⟩
  · next missing => exact ⟨fun same => (by cases same), fun member => absurd (List.contains_iff_mem.mpr member) missing⟩

theorem promoted_congr {kinds kindsToo : List Kind} (same : double ∈ kinds ↔ double ∈ kindsToo) :
    promoted kinds = promoted kindsToo := by
  rcases promoted_eq kinds with long | double
  · rcases promoted_eq kindsToo with longToo | doubleToo
    · rw [long, longToo]
    · have found := promoted_eq_double_iff.mpr (same.mpr (promoted_eq_double_iff.mp doubleToo))
      rw [found, doubleToo]
  · rw [double, promoted_eq_double_iff.mpr (same.mp (promoted_eq_double_iff.mp double))]

end Kind

open Reckoner.Tree

theorem mem_kinds {kind : Kind} {trees : List Tree} :
    kind ∈ kinds trees ↔ ∃ tree ∈ trees, tree.kind = kind := by
  rw [kinds_eq_map, List.mem_map]

/-- What a folded sum, difference or product looks like from above: its kind, and that it is constant
if the operands are. -/
structure Folded.Shaped (fine : Kind → Prop) (operands : List Tree) (tree : Tree) : Prop where
  kind : fine tree.kind
  constant : areConstant operands = true → tree.isConstant = true

theorem Folded.Shaped.literal {fine : Kind → Prop} {operands : List Tree} {kind : Kind}
    {value : Value} (here : fine kind) : Folded.Shaped fine operands (.literal kind value) :=
  ⟨by rwa [Tree.kind], fun _ => by rw [isConstant]⟩

/-- Collecting puts one term in the place of all known operands and keeps the others. -/
theorem mem_collectAt {term part : Tree} {operands : List Tree} :
    part ∈ collectAt term operands ↔
      (part = term ∧ ∃ operand ∈ operands, operand.literalValue?.isSome = true) ∨
        (part ∈ operands ∧ part.literalValue?.isSome = false) := by
  induction operands with
  | nil => simp [collectAt]
  | cons operand rest ih =>
    rw [collectAt]
    split
    · next known =>
      have differs : part = operand → ¬ part.literalValue?.isSome = false := by
        rintro rfl
        simp [known]
      simp only [List.mem_cons, List.mem_filter, exists_eq_or_imp, known, true_or, and_true,
        Option.isNone_iff_eq_none, Option.isSome_eq_false_iff]
      grind
    · next unknown =>
      rw [Bool.not_eq_true] at unknown
      simp only [List.mem_cons, ih, exists_eq_or_imp, unknown, Bool.false_eq_true, false_or]
      grind

/-- The collected term goes to the front of the terms that are not collected, up to their order. -/
theorem collectAt_perm {term : Tree} {operands : List Tree}
    (several : (operands.filter fun operand => operand.literalValue?.isSome) ≠ []) :
    (collectAt term operands).Perm
      (term :: operands.filter fun operand => operand.literalValue?.isNone) := by
  induction operands with
  | nil => exact absurd rfl several
  | cons operand rest ih =>
    rw [collectAt]
    split
    · next known =>
      rw [List.filter_cons_of_neg (by simp [Option.isSome_iff_ne_none.mp known])]
    · next unknown =>
      rw [List.filter_cons_of_neg (by exact unknown)] at several
      rw [List.filter_cons_of_pos (by simpa using unknown)]
      exact ((ih several).cons operand).trans (.swap ..)

private theorem promoted_known_eq_double {operands : List Tree} :
    Kind.promoted (kinds (operands.filter fun operand => operand.literalValue?.isSome)) = .double ↔
      ∃ operand ∈ operands, operand.literalValue?.isSome = true ∧ operand.kind = .double := by
  simp only [Kind.promoted_eq_double_iff, mem_kinds, List.mem_filter, and_assoc]

/-- A folded sum is declared to be of the kind of the sum. -/
theorem foldAddition?_shaped {operator : Operator} (sums : operator.kind = .addition)
    {operands : List Tree} {folded : Folded} (fold : foldAddition? operands = some folded) :
    Folded.Shaped (· = Kind.promoted (kinds operands)) operands
      (folded.result (.operation operator)) := by
  rcases Option.or_eq_some_iff.mp fold with constant | ⟨_, fold⟩
  · obtain ⟨_, value, _, rfl⟩ := foldConstant?_eq_some_iff.mp constant
    exact .literal rfl
  · dsimp only at fold
    split at fold
    · obtain rfl := Option.some.inj fold
      exact .literal rfl
    · split at fold
      · cases fold
      · next several =>
        obtain ⟨term, _, rfl⟩ := Option.map_eq_some_iff.mp fold
        rw [Folded.result]
        constructor
        · rw [Tree.kind, sums, OperatorKind.resultKind]
          refine Kind.promoted_congr ⟨fun double => ?_, fun double => ?_⟩
          · obtain ⟨part, inside, sort⟩ := mem_kinds.mp double
            rcases mem_collectAt.mp inside with ⟨rfl, _⟩ | ⟨member, _⟩
            · rw [Tree.kind, promoted_known_eq_double] at sort
              obtain ⟨operand, member, _, sort⟩ := sort
              exact mem_kinds.mpr ⟨operand, member, sort⟩
            · exact mem_kinds.mpr ⟨part, member, sort⟩
          · obtain ⟨operand, member, sort⟩ := mem_kinds.mp double
            rw [mem_kinds]
            cases known : operand.literalValue?.isSome with
            | true =>
              refine ⟨_, mem_collectAt.mpr (.inl ⟨rfl, operand, member, known⟩), ?_⟩
              rw [Tree.kind, promoted_known_eq_double]
              exact ⟨operand, member, known, sort⟩
            | false => exact ⟨operand, mem_collectAt.mpr (.inr ⟨member, known⟩), sort⟩
        · intro constant
          rw [isConstant, areConstant_iff]
          intro part inside
          rcases mem_collectAt.mp inside with ⟨rfl, _⟩ | ⟨member, _⟩
          · rw [isConstant]
          · exact areConstant_iff.mp constant part member

/-- What an operator is applied to is what folding makes, or the operation as it stands. -/
theorem Folded.applied_eq (operator : Operator) (operands : List Tree) (folded? : Option Folded) :
    Folded.applied operator operands folded? =
      (folded?.map (Folded.result (.operation operator))).getD (.operation operator operands) := by
  rcases folded? with _ | ⟨_ | _⟩ <;> rfl

/-- A sum is of its kind whether it is folded or not. -/
theorem sum_shaped (operator : Operator) (sums : operator.kind = .addition) (operands : List Tree) :
    Folded.Shaped (· = Kind.promoted (kinds operands)) operands
      (Folded.applied operator operands (foldAddition? operands)) := by
  rw [Folded.applied_eq]
  cases fold : foldAddition? operands with
  | none =>
    exact ⟨by rw [Option.map_none, Option.getD_none, Tree.kind, sums, OperatorKind.resultKind],
      fun constant => by rwa [Option.map_none, Option.getD_none, isConstant]⟩
  | some folded => exact foldAddition?_shaped sums fold

/-- Opposites are doubles where the terms are, and constant where the terms are. -/
theorem opposites_shaped {negation : Tag} {terms opposites : List Tree}
    (opposed : terms.mapM (opposite? negation) = some opposites) :
    (Kind.double ∈ kinds opposites ↔ Kind.double ∈ kinds terms) ∧
      (areConstant terms = true → areConstant opposites = true) := by
  induction terms generalizing opposites with
  | nil =>
    obtain rfl := Option.some.inj opposed
    exact ⟨Iff.rfl, id⟩
  | cons term rest ih =>
    obtain ⟨opposite, others, here, later, rfl⟩ := exists_of_mapM_cons opposed
    obtain ⟨doubles, constants⟩ := ih later
    have shape : (Kind.double = opposite.kind ↔ Kind.double = term.kind) ∧
        (term.isConstant = true → opposite.isConstant = true) := by
      unfold opposite? at here
      split at here
      · obtain ⟨value, _, rfl⟩ := Option.map_eq_some_iff.mp here
        exact ⟨by rw [Tree.kind], fun _ => by rw [isConstant]⟩
      · obtain rfl := Option.some.inj here
        constructor
        · rw [Tree.kind, OperatorKind.resultKind, eq_comm, Kind.promoted_eq_double_iff, mem_kinds]
          simp only [List.mem_singleton, exists_eq_left]
          exact eq_comm
        · intro constant
          rw [isConstant, areConstant, areConstant, constant, Bool.and_self]
    refine ⟨?_, fun constant => ?_⟩
    · simp only [kinds, List.mem_cons, shape.1, doubles]
    · rw [areConstant, Bool.and_eq_true] at constant ⊢
      exact ⟨shape.2 constant.1, constants constant.2⟩

/-- A folded difference is declared to be of the kind of the difference. -/
theorem foldSubtraction?_shaped {addition negation : Tag} (again : List Tree → Tree)
    {operands : List Tree} {folded : Folded}
    (fold : foldSubtraction? addition negation operands = some folded) :
    Folded.Shaped (· = Kind.promoted (kinds operands)) operands (folded.result again) := by
  rcases Option.or_eq_some_iff.mp fold with constant | ⟨_, fold⟩
  · obtain ⟨_, value, _, rfl⟩ := foldConstant?_eq_some_iff.mp constant
    exact .literal rfl
  · cases operands with
    | nil => cases fold
    | cons first rest =>
      dsimp only at fold
      split at fold
      · obtain ⟨opposites, opposed, fold⟩ := Option.bind_eq_some_iff.mp fold
        obtain rfl := Option.some.inj fold
        obtain ⟨doubles, constants⟩ := opposites_shaped opposed
        have sum := sum_shaped ⟨addition, .addition⟩ rfl (first :: opposites)
        refine ⟨sum.kind.trans (Kind.promoted_congr ?_), fun constant => sum.constant ?_⟩
        · simp only [kinds, List.mem_cons, doubles]
        · rw [areConstant, Bool.and_eq_true] at constant ⊢
          exact ⟨constant.1, constants constant.2⟩
      · cases fold

private theorem double_mem_kinds_iff (operands : List Tree) :
    Kind.double ∈ kinds operands ↔
      Kind.promoted (kinds (operands.filter fun operand => operand.literalValue?.isSome)) = .double ∨
        Kind.double ∈ kinds (operands.filter fun operand => operand.literalValue?.isNone) := by
  simp only [promoted_known_eq_double, mem_kinds, List.mem_filter]
  constructor
  · rintro ⟨operand, member, sort⟩
    cases known : operand.literalValue? with
    | some value => exact .inl ⟨operand, member, by rw [known, Option.isSome_some], sort⟩
    | none => exact .inr ⟨operand, ⟨member, by rw [known, Option.isNone_none]⟩, sort⟩
  · rintro (⟨operand, member, _, sort⟩ | ⟨operand, ⟨member, _⟩, sort⟩)
    · exact ⟨operand, member, sort⟩
    · exact ⟨operand, member, sort⟩

private theorem factors_shaped {operator : Operator} (multiplies : operator.kind = .multiplication)
    {operands factors : List Tree} {folded : Folded}
    (fold : (match factors with
      | [single] => some (Folded.tree single)
      | factors => some (Folded.operands factors)) = some folded)
    (numeric : ∀ factor ∈ factors, Kind.double.takes factor.kind = true)
    (same : Kind.promoted (kinds factors) = Kind.promoted (kinds operands))
    (constant : areConstant operands = true → areConstant factors = true) :
    Folded.Shaped (·.Weakens (Kind.promoted (kinds operands))) operands
      (folded.result (.operation operator)) := by
  have several (all : folded = .operands factors) :
      Folded.Shaped (·.Weakens (Kind.promoted (kinds operands))) operands
        (folded.result (.operation operator)) := by
    subst all
    constructor
    · rw [← same, Folded.result, Tree.kind, multiplies]
      exact .refl _
    · rwa [Folded.result, isConstant]
  rcases factors with _ | ⟨single, _ | ⟨second, others⟩⟩
  · exact several (Option.some.inj fold).symm
  · obtain rfl := Option.some.inj fold
    refine ⟨?_, fun known => areConstant_iff.mp (constant known) single (List.mem_singleton_self _)⟩
    rw [← same, Folded.result, kinds, kinds]
    have takes := numeric single (List.mem_singleton_self _)
    revert takes
    cases single.kind <;> simp [Kind.takes, Kind.isNumeric, Kind.promoted, Kind.Weakens]
  · exact several (Option.some.inj fold).symm

/-- A folded product is declared to be of the kind of the product, or null in place of a long. -/
theorem foldMultiplication?_shaped {operator : Operator}
    (multiplies : operator.kind = .multiplication) {operands : List Tree} {folded : Folded}
    (numeric : Kind.double.takesAll (kinds operands) = true)
    (fold : foldMultiplication? operands = some folded) :
    Folded.Shaped (·.Weakens (Kind.promoted (kinds operands))) operands
      (folded.result (.operation operator)) := by
  rcases Option.or_eq_some_iff.mp fold with constant | ⟨_, fold⟩
  · obtain ⟨_, value, _, rfl⟩ := foldConstant?_eq_some_iff.mp constant
    exact .literal (.refl _)
  · split at fold
    · obtain rfl := Option.some.inj fold
      exact .literal (.refl _)
    · dsimp only at fold
      split at fold
      · cases fold
      · obtain ⟨factor, _, fold⟩ := Option.bind_eq_some_iff.mp fold
        split at fold
        · cases fold
        · have below := Kind.takesAll_iff.mp numeric
          have otherBelow : ∀ operand ∈ operands.filter fun operand =>
              operand.literalValue?.isNone, Kind.double.takes operand.kind = true := fun operand member =>
            below _ (mem_kinds.mpr ⟨operand, (List.mem_filter.mp member).1, rfl⟩)
          refine factors_shaped multiplies fold ?_ ?_ fun constant => ?_
          · split
            · refine List.forall_mem_cons.mpr ⟨?_, otherBelow⟩
              rw [Tree.kind]
              exact Kind.double_takes_promoted _
            · exact otherBelow
          · refine Kind.promoted_congr ?_
            rw [double_mem_kinds_iff operands]
            split
            · rw [kinds, Tree.kind, List.mem_cons, eq_comm (a := Kind.double)]
            · next dropped =>
              refine ⟨.inr, fun double => double.elim (fun known => ?_) id⟩
              rcases Kind.promoted_eq (kinds (operands.filter fun operand =>
                operand.literalValue?.isNone)) with long | double
              · simp [known, long] at dropped
              · exact Kind.promoted_eq_double_iff.mp double
          · have parts := areConstant_iff.mp constant
            have others := areConstant_iff.mpr fun operand
              (member : operand ∈ operands.filter fun operand => operand.literalValue?.isNone) =>
                parts operand (List.mem_filter.mp member).1
            split
            · rw [areConstant, isConstant, others, Bool.and_self]
            · exact others

section Constants

variable {document : Option Json} {operator : Operator} {operands : List Tree}
  (constant : areConstant operands = true)

include constant

/-- A folded addition may stand for the sum. -/
theorem foldAddition?_keeps (sums : operator.kind = .addition) :
    Folded.Keeps document (.operation operator) operands (foldAddition? operands) := by
  have meaning : (Tree.operation operator operands).outcome document =
      addOperands (operandsFor document operands) := by rw [Tree.outcome, sums]; rfl
  have sort : (Tree.operation operator operands).kind = Kind.promoted (kinds operands) := by
    rw [Tree.kind, sums]; rfl
  refine Folded.keeps_of_areConstant meaning sort.symm constant (fun value success => ?_)
    fun folded fold => ?_
  · rw [foldAddition?, foldConstant?_eq_some_iff.mpr ⟨constant, value, success, rfl⟩,
      Option.some_or]
  · have shaped := foldAddition?_shaped sums fold
    exact ⟨.inl shaped.kind, shaped.constant constant⟩

/-- A difference folded into a sum of opposites may stand for the difference. -/
theorem foldSubtraction?_keeps {addition negation : Tag}
    (subtracts : operator.kind = .subtraction addition negation) :
    Folded.Keeps document (.operation operator) operands
      (foldSubtraction? addition negation operands) := by
  have meaning : (Tree.operation operator operands).outcome document =
      subtractOperands (operandsFor document operands) := by rw [Tree.outcome, subtracts]; rfl
  have sort : (Tree.operation operator operands).kind = Kind.promoted (kinds operands) := by
    rw [Tree.kind, subtracts]; rfl
  refine Folded.keeps_of_areConstant meaning sort.symm constant (fun value success => ?_)
    fun folded fold => ?_
  · unfold foldSubtraction?
    rw [foldConstant?_eq_some_iff.mpr ⟨constant, value, success, rfl⟩, Option.some_or]
  · have shaped := foldSubtraction?_shaped (.operation operator) fold
    exact ⟨.inl shaped.kind, shaped.constant constant⟩

omit constant in
/-- A product of constants folds to its value. -/
theorem foldMultiplication?_eq_some (constant : areConstant operands = true) {value : Value}
    (success : multiplyOperands (known operands) = .ok value) :
    foldMultiplication? operands =
      some (.literal (Kind.promoted (kinds operands)) value) := by
  rw [foldMultiplication?]
  dsimp only
  rw [foldConstant?_eq_some_iff.mpr ⟨constant, value, success, rfl⟩, Option.some_or]

/-- A folded multiplication may stand for the product, in its kind. -/
theorem foldMultiplication?_keeps (multiplies : operator.kind = .multiplication)
    (accepted : operator.accepts operands = true) :
    Folded.Keeps document (.operation operator) operands (foldMultiplication? operands) := by
  rw [Operator.accepts, multiplies] at accepted
  have meaning : (Tree.operation operator operands).outcome document =
      multiplyOperands (operandsFor document operands) := by rw [Tree.outcome, multiplies]; rfl
  have sort : (Tree.operation operator operands).kind = Kind.promoted (kinds operands) := by
    rw [Tree.kind, multiplies]; rfl
  refine Folded.keeps_of_areConstant meaning sort.symm constant
    (fun value => foldMultiplication?_eq_some constant) fun folded fold => ?_
  have shaped := foldMultiplication?_shaped multiplies (Bool.and_eq_true_iff.mp accepted).2 fold
  exact ⟨shaped.kind, shaped.constant constant⟩

end Constants

/-- Constant divisors with a value have that value as one expression. -/
theorem literalValue?_divisor (multiplication : Tag) {divisors : List Tree} {value : Value}
    (constant : areConstant divisors = true)
    (success : divisorOutcome (known divisors) = .ok value) :
    (divisor multiplication divisors).literalValue? = some value := by
  have several (success : multiplyOperands (known divisors) = .ok value) :
      (Folded.applied ⟨multiplication, .multiplication⟩ divisors
        (foldMultiplication? divisors)).literalValue? = some value := by
    rw [foldMultiplication?_eq_some constant success]
    exact literalValue?_eq_some_iff.mpr
      ⟨by rw [Folded.literal, Folded.applied, isConstant], by
        rw [Folded.literal, Folded.applied, outcome]⟩
  rcases divisors with _ | ⟨single, _ | ⟨second, rest⟩⟩
  · exact several success
  · exact literalValue?_eq_some_iff.mpr
      ⟨areConstant_iff.mp constant single (List.mem_singleton_self _), success⟩
  · exact several success

/-- Constant divisors are constant as one expression. -/
theorem isConstant_divisor (multiplication : Tag) {divisors : List Tree}
    (numeric : Kind.double.takesAll (kinds divisors) = true)
    (constant : areConstant divisors = true) :
    (divisor multiplication divisors).isConstant = true := by
  have several : (Folded.applied ⟨multiplication, .multiplication⟩ divisors
      (foldMultiplication? divisors)).isConstant = true := by
    rw [Folded.applied_eq]
    cases fold : foldMultiplication? divisors with
    | none => rwa [Option.map_none, Option.getD_none, isConstant]
    | some folded => exact (foldMultiplication?_shaped rfl numeric fold).constant constant
  rcases divisors with _ | ⟨single, _ | ⟨second, rest⟩⟩
  · exact several
  · exact areConstant_iff.mp constant single (List.mem_singleton_self _)
  · exact several

/-- Constant operands with a quotient have the same quotient when their divisors are one expression. -/
theorem divideOperands_divisor (multiplication : Tag) {numerator : Tree} {divisors : List Tree}
    {value : Value} (constant : areConstant divisors = true)
    (success : divideOperands (known (numerator :: divisors)) = .ok value) :
    divideOperands (known [numerator, divisor multiplication divisors]) = .ok value := by
  rw [known, operandsFor, divideOperands] at success ⊢
  obtain ⟨first, numerated, success⟩ := Except.bind_eq_ok_iff.mp success
  rw [numerated, Except.ok_bind]
  split at success
  · next nothing => rwa [if_pos nothing]
  · next something =>
    rw [if_neg something]
    obtain ⟨second, divided, success⟩ := Except.bind_eq_ok_iff.mp success
    have known := literalValue?_divisor multiplication constant divided
    rw [operandsFor, operandsFor, divisorOutcome, outcome_of_literalValue? known none,
      Except.ok_bind]
    exact success

/-- A numerator known to be null or zero makes the quotient zero. -/
theorem divideOperands_of_nothing {numerator : Tree} (divisors : List Tree)
    (nothing : numerator.literalValue?.any Value.isNothing = true) :
    divideOperands (known (numerator :: divisors)) = .ok (.double Double.zero) := by
  obtain ⟨value, evaluated, nothing⟩ := (Option.any_eq_true _ _).mp nothing
  rw [known, operandsFor, divideOperands, outcome_of_literalValue? evaluated, Except.ok_bind,
    if_pos nothing]

/-- Where a quotient is not zero, a void divisor leaves no other value than no number. -/
theorem eq_nan_of_divisorIsVoid {multiplication : Tag} {numerator : Tree} {divisors : List Tree}
    {value : Value} (constant : areConstant (numerator :: divisors) = true)
    (something : ¬ numerator.literalValue?.any Value.isNothing = true)
    (void : divisorIsVoid (divisor multiplication divisors) = true)
    (success : divideOperands (known (numerator :: divisors)) = .ok value) :
    value = .double Double.nan := by
  rw [areConstant, Bool.and_eq_true] at constant
  rw [known, operandsFor, divideOperands] at success
  obtain ⟨first, numerated, success⟩ := Except.bind_eq_ok_iff.mp success
  have evaluated := literalValue?_eq_some_iff.mpr ⟨constant.1, numerated⟩
  rw [evaluated, Option.any_some] at something
  rw [if_neg something] at success
  obtain ⟨second, divided, success⟩ := Except.bind_eq_ok_iff.mp success
  have evaluatedToo := literalValue?_divisor multiplication constant.2 divided
  rw [divisorIsVoid, evaluatedToo, Option.all_some, Bool.and_eq_true] at void
  rw [if_pos void.2] at success
  exact (Except.ok.inj success).symm

/-- A division of constants folds to something that may stand for the quotient. -/
theorem foldDivision?_keeps {document : Option Json} {operator : Operator} {operands : List Tree}
    {multiplication : Tag} (constant : areConstant operands = true)
    (divides : operator.kind = .division multiplication)
    (accepted : operator.accepts operands = true) :
    Folded.Keeps document (.operation operator) operands
      (foldDivision? multiplication operands) := by
  rw [Operator.accepts, divides] at accepted
  intro folded fold
  cases operands with
  | nil => cases fold
  | cons numerator divisors =>
    have sort : Kind.double = (Tree.operation operator (numerator :: divisors)).kind := by
      rw [Tree.kind, divides]
      rfl
    have answers (value : Value)
        (answer : (Tree.operation operator (numerator :: divisors)).outcome document = .ok value) :
        divideOperands (known (numerator :: divisors)) = .ok value := by
      rwa [Tree.outcome, operandsFor_of_areConstant constant, divides] at answer
    have parts : numerator.isConstant = true ∧ areConstant divisors = true := by
      rwa [areConstant, Bool.and_eq_true] at constant
    have numeric : Kind.double.takesAll (kinds divisors) = true :=
      (Bool.and_eq_true_iff.mp (Bool.and_eq_true_iff.mp accepted).2).2
    have single := isConstant_divisor multiplication numeric parts.2
    rw [foldDivision?] at fold
    dsimp only at fold
    split at fold
    · next nothing =>
      obtain rfl := Option.some.inj fold
      refine .literal sort fun value answer => ?_
      have zero := divideOperands_of_nothing divisors nothing
      exact Except.ok.inj ((answers value answer).symm.trans zero)
    · next something =>
      split at fold
      · next void =>
        obtain rfl := Option.some.inj fold
        exact .literal sort fun value answer =>
          eq_nan_of_divisorIsVoid constant something void (answers value answer)
      · rcases Option.or_eq_some_iff.mp fold with fold | ⟨_, fold⟩
        · obtain ⟨_, quotient, success, rfl⟩ := foldConstant?_eq_some_iff.mp fold
          refine .literal sort fun value answer => ?_
          have same := divideOperands_divisor multiplication parts.2
            (answers value answer)
          exact Except.ok.inj (same.symm.trans success)
        · split at fold
          · cases fold
          · obtain rfl := Option.some.inj fold
            rw [Folded.result]
            have pair : areConstant [numerator, divisor multiplication divisors] = true := by
              rw [areConstant, areConstant, areConstant, parts.1, single, Bool.and_self,
                Bool.and_self]
            refine ⟨fun value answer => ⟨?_, ?_⟩, .inl ?_, fun _ => by rwa [isConstant]⟩
            · rw [Tree.outcome, divides, OperatorKind.apply, operandsFor_of_areConstant pair]
              exact divideOperands_divisor multiplication parts.2 (answers value answer)
            · rw [Tree.kind, ← sort, divides, OperatorKind.resultKind]
            · rw [Tree.kind, ← sort, divides, OperatorKind.resultKind]

end Reckoner
