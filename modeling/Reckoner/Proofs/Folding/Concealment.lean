import Reckoner.Proofs.Folding.Mirror
import Reckoner.Proofs.Folding.Operator

/-! # Failures that folding conceals

An operator that fails is folded to something that fails in the same way, unless a constant among its
operands settles it before the failure is met: the truth value that decides a connective, a null among
texts or terms, a zero or null factor, and a divisor without a value, which makes the quotient no
number. Differences of three or more operands lose an overflow of their own as well, since they become
sums.

Where a variable takes part in arithmetic, folding keeps the value as long as it moves no constants past
variables. A lone subtrahend that is constant and a lone factor of one move nothing.
-/

namespace Reckoner

open Reckoner.Tree

def Operand.hasValue (operand : Operand) (value : Value) : Bool :=
  operand.outcome.toOption == some value

/-- Over these operands, all of them constant or not, an operator that fails may be folded to something
that does not. -/
def OperatorKind.conceals (operator : OperatorKind) (constant : Bool) (operands : List Operand) : Bool :=
  match operator with
  | or => operands.any (·.hasValue (.boolean true))
  | and => operands.any (·.hasValue (.boolean false))
  | concatenation => operands.any (·.hasValue .null)
  | addition => !constant && operands.any (·.hasValue .null)
  | subtraction _ _ =>
    !constant && operands.any (·.hasValue .null) || 3 ≤ operands.length && operands.all Operand.isKnown
  | multiplication => operands.any fun operand => operand.outcome.toOption.any Value.isNothing
  | division _ => (divisorOutcome (operands.drop 1)).toOption.all Value.isNothing
  | not | comparison _ | square | negation => false

/-- What conceals a failure among operands with the outcomes of others conceals it among these. -/
theorem OperatorKind.conceals_of_mirrors {operator : OperatorKind} {mirrors originals : List Operand}
    {constant constantToo : Bool} (faithful : List.Forall₂ Operand.Mirrors mirrors originals)
    (weaker : constantToo = true → constant = true)
    (conceals : operator.conceals constant mirrors = true) : operator.conceals constantToo originals = true := by
  have varying (varying : (!constant) = true) : (!constantToo) = true := by
    cases constantToo with
    | false => rfl
    | true => rw [weaker rfl] at varying; cases varying
  have value (value : Value) : mirrors.any (·.hasValue value) = originals.any (·.hasValue value) :=
    Operand.any_of_mirrors faithful fun outcome => outcome.toOption == some value
  cases operator with
  | or | and | concatenation => exact (value _).symm.trans conceals
  | multiplication =>
    exact (Operand.any_of_mirrors faithful fun outcome => outcome.toOption.any Value.isNothing).symm.trans conceals
  | addition =>
    rw [OperatorKind.conceals, Bool.and_eq_true, value] at conceals
    exact Bool.and_eq_true_iff.mpr ⟨varying conceals.1, conceals.2⟩
  | subtraction _ _ =>
    rw [OperatorKind.conceals, Bool.or_eq_true, Bool.and_eq_true, value, faithful.length_eq,
      Operand.all_isKnown_of_mirrors faithful] at conceals
    exact Bool.or_eq_true_iff.mpr (conceals.imp (fun null => Bool.and_eq_true_iff.mpr ⟨varying null.1, null.2⟩) id)
  | division _ =>
    rwa [OperatorKind.conceals, divisorOutcome_of_mirrors (List.forall₂_drop 1 faithful)] at conceals
  | _ => cases conceals

/-- The number of operands with a value that is known without a document. -/
def knownCount (operands : List Tree) : Nat :=
  (operands.filter fun operand => operand.literalValue?.isSome).length

/-- A product with a variable factor is folded otherwise than by leaving a factor of one out of a product
of longs, or by a null. -/
def movesFactors (factors : List Tree) : Bool :=
  !areConstant factors && (foldMultiplication? factors).isSome &&
    (2 ≤ knownCount factors || (factors.filterMap literalValue?).any Value.isZero ||
      Kind.promoted (kinds factors) == .double)

/-- Folding an operator over these operands computes something else than the operator does: constants of a
sum, a difference or a product with a variable operand are collected, a product vanishes that may be null, or
a quotient becomes no number that may be zero. -/
def OperatorKind.rearranges (operator : OperatorKind) (operands : List Tree) : Bool :=
  match operator with
  | addition => !areConstant operands && 2 ≤ knownCount operands
  | subtraction _ _ =>
    !areConstant operands && (operands.drop 1).any isConstant &&
      (3 ≤ operands.length || Kind.promoted (kinds operands) == .double)
  | multiplication => movesFactors operands
  | division product => match operands with
    | [] => false
    | numerator :: divisors =>
      !numerator.isConstant && divisorIsVoid (divisor product divisors) || movesFactors divisors
  | _ => false

namespace Operand

theorem hasValue_iff {operand : Operand} {value : Value} :
    operand.hasValue value = true ↔ operand.outcome = .ok value := by
  rw [hasValue, beq_iff_eq, Except.toOption_eq_some_iff]

variable {operands : List Operand} {error : EvalError}

/-- A list of values fails at its first operand, or at one behind a first operand with a value. -/
theorem values_cons_eq_error_iff {operand : Operand} :
    values (operand :: operands) = .error error ↔
      operand.outcome = .error error ∨
        ∃ value, operand.outcome = .ok value ∧ values operands = .error error := by
  have last {values? : Except EvalError (List Value)} {value : Value} :
      (values? >>= fun rest => pure (value :: rest)) = .error error ↔ values? = .error error := by
    cases values? with
    | error other => exact Iff.rfl
    | ok rest => exact iff_of_false (Except.ok_ne_error _ _) (Except.ok_ne_error _ _)
  rw [values, values, List.mapM_cons, Except.bind_eq_error_iff]
  simp only [last]

theorem exists_of_isKnown {operand : Operand} (evaluates : operand.isKnown = true) :
    ∃ value, operand.outcome = .ok value := by
  unfold isKnown at evaluates
  split at evaluates
  · next value success => exact ⟨value, success⟩
  · cases evaluates

theorem all_isKnown_of_values {found : List Value} (success : values operands = .ok found) :
    operands.all isKnown = true := by
  induction operands generalizing found with
  | nil => rfl
  | cons operand rest ih =>
    rw [values, List.mapM_cons] at success
    obtain ⟨value, here, success⟩ := Except.bind_eq_ok_iff.mp success
    obtain ⟨others, later, _⟩ := Except.bind_eq_ok_iff.mp success
    rw [List.all_cons, ih later, isKnown, here, Bool.and_self]

/-- What is computed from all values fails if an operand does, or in the computation over values none of
which is null. -/
theorem unlessNull_eq_error_iff {compute : List Value → Except EvalError Value} :
    unlessNull operands compute = .error error ↔
      values operands = .error error ∨ ∃ found, values operands = .ok found ∧
        found.any Value.isNull = false ∧ compute found = .error error := by
  rw [unlessNull, Except.bind_eq_error_iff]
  refine or_congr_right (exists_congr fun found => and_congr_right fun _ => ?_)
  cases found.any Value.isNull with
  | true => exact iff_of_false (Except.ok_ne_error _ _) fun both => Bool.false_ne_true both.1.symm
  | false => exact ⟨fun failed => ⟨rfl, failed⟩, fun both => both.2⟩

end Operand

/-- Operands keep to their kinds if each of them has no value but of its kind. -/
theorem forall_typed_iff {document : Option Json} {operands : List Tree} :
    (∀ operand ∈ operandsFor document operands, operand.Typed fun _ => True) ↔
      ∀ operand ∈ operands, ∀ value, operand.outcome document = .ok value → value.Fits operand.kind := by
  rw [operandsFor_eq_map, List.forall_mem_map]
  refine forall₂_congr fun operand _ => ?_
  rw [Operand.Typed]
  dsimp only
  cases operand.outcome document with
  | error error => exact iff_of_true trivial fun _ same => absurd same.symm (Except.ok_ne_error _ _)
  | ok found =>
    refine ⟨fun fits value same => ?_, fun fits => fits found rfl⟩
    obtain rfl := Except.ok.inj same
    exact fits

/-- What fails has no value that is known without a document. -/
theorem literalValue?_of_error {tree : Tree} {document : Option Json} {error : EvalError}
    (failed : tree.outcome document = .error error) : tree.literalValue? = none := by
  cases known : tree.literalValue? with
  | none => rfl
  | some value => exact absurd ((outcome_of_literalValue? known document).symm.trans failed) (Except.ok_ne_error _ _)

/-- Operands whose values are known have these values for every document. -/
theorem values_of_literals {operands : List Tree}
    (known : ∀ operand ∈ operands, operand.literalValue?.isSome = true) (document : Option Json) :
    Operand.values (operandsFor document operands) = .ok (operands.filterMap literalValue?) := by
  induction operands with
  | nil => rfl
  | cons operand rest ih =>
    obtain ⟨here, others⟩ := List.forall_mem_cons.mp known
    obtain ⟨value, here⟩ := Option.isSome_iff_exists.mp here
    have ih := ih others
    rw [Operand.values] at ih
    rw [operandsFor, Operand.values, List.mapM_cons, outcome_of_literalValue? here, ih,
      List.filterMap_cons_some here]
    rfl

/-- Arithmetic over constants fails where one of them does, or it fails over the values that all of them are
known to have. -/
theorem unlessNull_fails {document : Option Json} {operands : List Tree}
    {compute : List Value → Except EvalError Value} {error : EvalError} (constant : areConstant operands = true)
    (failed : Operand.unlessNull (operandsFor document operands) compute = .error error) :
    Operand.values (operandsFor document operands) = .error error ∨
      (∀ operand ∈ operands, operand.literalValue?.isSome = true) ∧
        (operands.filterMap literalValue?).any Value.isNull = false ∧
        compute (operands.filterMap literalValue?) = .error error := by
  rcases Operand.unlessNull_eq_error_iff.mp failed with fails | ⟨found, success, present, failed⟩
  · exact .inl fails
  have known : ∀ operand ∈ operands, operand.literalValue?.isSome = true := by
    intro operand member
    have evaluates := Operand.all_isKnown_of_values success
    rw [operandsFor_eq_map, List.all_map, List.all_eq_true] at evaluates
    obtain ⟨value, here⟩ := Operand.exists_of_isKnown (evaluates operand member)
    have constant := areConstant_iff.mp constant operand member
    rw [literalValue?_eq_some_iff.mpr ⟨constant, (outcome_of_isConstant constant document).symm.trans here⟩,
      Option.isSome_some]
  obtain rfl := Except.ok.inj ((values_of_literals known document).symm.trans success)
  exact .inr ⟨known, present, failed⟩

section Values

variable {document : Option Json} {operands : List Tree} {error : EvalError}

/-- The first operand that fails is among those without a known value. -/
theorem values_filter_isNone
    (failed : Operand.values (operandsFor document operands) = .error error) :
    Operand.values (operandsFor document
      (operands.filter fun operand => operand.literalValue?.isNone)) = .error error := by
  induction operands with
  | nil => exact failed
  | cons operand rest ih =>
    rw [operandsFor, Operand.values_cons_eq_error_iff] at failed
    cases known : operand.literalValue? with
    | some value =>
      rw [outcome_of_literalValue? known] at failed
      rw [List.filter_cons_of_neg (by rw [known]; exact Bool.false_ne_true)]
      obtain failed | ⟨_, _, failed⟩ := failed
      · cases failed
      · exact ih failed
    | none =>
      rw [List.filter_cons_of_pos (by rw [known, Option.isNone_none]), operandsFor,
        Operand.values_cons_eq_error_iff]
      exact failed.imp id (Exists.imp fun _ => And.imp_right ih)

/-- Collected terms leave the first operand that fails in its place. -/
theorem values_collectAt {kind : Kind} {term : Value}
    (failed : Operand.values (operandsFor document operands) = .error error) :
    Operand.values (operandsFor document (collectAt (.literal kind term) operands)) = .error error := by
  induction operands with
  | nil => exact failed
  | cons operand rest ih =>
    rw [operandsFor, Operand.values_cons_eq_error_iff] at failed
    cases known : operand.literalValue? with
    | some value =>
      rw [outcome_of_literalValue? known] at failed
      rw [collectAt, known, Option.isSome_some, if_pos rfl, operandsFor, Operand.values_cons_eq_error_iff]
      obtain failed | ⟨_, _, failed⟩ := failed
      · cases failed
      · exact .inr ⟨term, by rw [outcome], values_filter_isNone failed⟩
    | none =>
      rw [collectAt, known, Option.isSome_none, if_neg Bool.false_ne_true, operandsFor,
        Operand.values_cons_eq_error_iff]
      exact failed.imp id (Exists.imp fun _ => And.imp_right ih)

/-- The opposite of a constant is the opposite of its value, or fails as the constant does. -/
theorem outcome_of_opposite? (document : Option Json) {negation : Tag} {term opposite : Tree} (constant : term.isConstant = true)
    (opposed : opposite? negation term = some opposite) :
    (∀ error, term.outcome document = .error error → opposite.outcome document = .error error) ∧
      ∀ value, term.outcome document = .ok value →
        ∃ minus, value.negate = .ok minus ∧ opposite = .literal term.kind minus := by
  refine ⟨fun error failed => ?_, fun value success => ?_⟩
  · rw [opposite?, literalValue?_of_error failed] at opposed
    obtain rfl := Option.some.inj opposed
    rw [outcome, operandsFor, OperatorKind.apply, negateOperand, Operand.firstOutcome, failed]
    rfl
  · rw [outcome_of_isConstant constant] at success
    rw [opposite?, literalValue?_eq_some_iff.mpr ⟨constant, success⟩] at opposed
    obtain ⟨minus, negated, rfl⟩ := Option.map_eq_some_iff.mp opposed
    exact ⟨minus, Except.toOption_eq_some_iff.mp negated, rfl⟩

theorem eq_singleton_of_mapM {change : Tree → Option Tree} {single : Tree} {changed : List Tree}
    (mapped : [single].mapM change = some changed) :
    ∃ result, changed = [result] ∧ change single = some result := by
  obtain ⟨result, others, here, nothing, rfl⟩ := exists_of_mapM_cons mapped
  obtain rfl := Option.some.inj nothing
  exact ⟨result, rfl, here⟩

/-- The opposites of constants fail where and as the constants do. -/
theorem values_opposites {negation : Tag} {opposites : List Tree} (constant : areConstant operands = true)
    (opposed : operands.mapM (opposite? negation) = some opposites)
    (failed : Operand.values (operandsFor document operands) = .error error) :
    Operand.values (operandsFor document opposites) = .error error := by
  induction operands generalizing opposites with
  | nil => cases failed
  | cons term rest ih =>
    rw [areConstant, Bool.and_eq_true] at constant
    obtain ⟨opposite, others, here, later, rfl⟩ := exists_of_mapM_cons opposed
    obtain ⟨fails, succeeds⟩ := outcome_of_opposite? document constant.1 here
    rw [operandsFor, Operand.values_cons_eq_error_iff] at failed ⊢
    obtain failed | ⟨value, success, failed⟩ := failed
    · exact .inl (fails error failed)
    · obtain ⟨minus, _, rfl⟩ := succeeds value success
      exact .inr ⟨minus, by rw [outcome], ih constant.2 later failed⟩

end Values

/-- Arithmetic with a null operand has no other value than null. -/
theorem eq_null_of_unlessNull {document : Option Json} {operands : List Tree} {operand : Tree}
    {compute : List Value → Except EvalError Value} {value : Value} (member : operand ∈ operands)
    (null : operand.literalValue? = some .null)
    (success : Operand.unlessNull (operandsFor document operands) compute = .ok value) :
    value = .null := by
  have found (values : List Value) (success : Operand.values (operandsFor document operands) = .ok values) :
      Value.null ∈ values := by
    clear * - member null success
    induction operands generalizing values with
    | nil => exact absurd member List.not_mem_nil
    | cons first rest ih =>
      rw [operandsFor, Operand.values, List.mapM_cons] at success
      obtain ⟨value, here, success⟩ := Except.bind_eq_ok_iff.mp success
      obtain ⟨others, later, success⟩ := Except.bind_eq_ok_iff.mp success
      obtain rfl := Except.ok.inj success
      rcases List.mem_cons.mp member with rfl | member
      · obtain rfl := Except.ok.inj ((outcome_of_literalValue? null document).symm.trans here)
        exact List.mem_cons_self ..
      · exact List.mem_cons_of_mem _ (ih member others later)
  obtain ⟨values, evaluated, success⟩ := Except.bind_eq_ok_iff.mp success
  rw [List.any_eq_true.mpr ⟨.null, found values evaluated, rfl⟩, if_pos rfl] at success
  exact (Except.ok.inj success).symm

theorem any_hasValue (document : Option Json) {operands : List Tree} {operand : Tree} {value : Value}
    (member : operand ∈ operands) (known : operand.literalValue? = some value) :
    (operandsFor document operands).any (·.hasValue value) = true := by
  rw [operandsFor_eq_map, List.any_map, List.any_eq_true]
  exact ⟨operand, member, Operand.hasValue_iff.mpr (outcome_of_literalValue? known document)⟩

/-- Constant operands that are not folded to a value fail. -/
theorem exists_error {operands : List Tree} {kind : Kind} {apply : List Operand → Except EvalError Value}
    (constant : areConstant operands = true) (unfolded : foldConstant? kind apply operands = none)
    (document : Option Json) : ∃ error, apply (operandsFor document operands) = .error error := by
  cases result : apply (operandsFor document operands) with
  | error error => exact ⟨error, rfl⟩
  | ok value =>
    rw [operandsFor_of_areConstant constant] at result
    rw [foldConstant?_eq_some_iff.mpr ⟨constant, value, result, rfl⟩] at unfolded
    cases unfolded

/-- Operands that are not all constant do not fold to their value. -/
theorem foldConstant?_of_varying {operands : List Tree} (varying : areConstant operands = false) (kind : Kind)
    (apply : List Operand → Except EvalError Value) : foldConstant? kind apply operands = none := by
  rw [foldConstant?, varying, if_neg Bool.false_ne_true]

/-- The expression `tree` has the outcome of the operator over the operands, unless that is a failure which
is concealed. -/
def Covers (document : Option Json) (operator : Operator) (operands : List Tree) (tree : Tree) : Prop :=
  tree.outcome document = operator.kind.apply (operandsFor document operands) ∨
    (∃ error, operator.kind.apply (operandsFor document operands) = .error error) ∧
      operator.kind.conceals (areConstant operands) (operandsFor document operands) = true

/-- Constant operands that fold to their value conceal nothing. -/
theorem covers_of_foldConstant? {document : Option Json} {operator : Operator} {operands : List Tree}
    {kind : Kind} {folded : Folded} (fold : foldConstant? kind operator.kind.apply operands = some folded) :
    Covers document operator operands (folded.result (.operation operator)) := by
  obtain ⟨constant, value, success, rfl⟩ := foldConstant?_eq_some_iff.mp fold
  rw [Covers, operandsFor_of_areConstant constant, success, Folded.result_literal, outcome]
  exact .inl rfl

section Sums

variable {document : Option Json} {operands : List Tree} {operator : Operator} {folded : Folded}

/-- A sum with a variable term and no two known ones becomes nothing but null, which it has for a term. -/
theorem foldAddition?_of_few (varying : areConstant operands = false) (few : knownCount operands < 2)
    (fold : foldAddition? operands = some folded) :
    folded = .literal (Kind.promoted (kinds operands)) .null ∧
      ∃ operand ∈ operands, operand.literalValue? = some .null := by
  rcases Option.or_eq_some_iff.mp fold with constant | ⟨_, fold⟩
  · exact absurd (varying.symm.trans (foldConstant?_eq_some_iff.mp constant).1) Bool.false_ne_true
  dsimp only at fold
  split at fold
  · next vanishes =>
    obtain ⟨value, member, null⟩ := List.any_eq_true.mp (Bool.and_eq_true_iff.mp vanishes).2
    obtain rfl := (Value.isNull_iff value).mp null
    exact ⟨(Option.some.inj fold).symm, List.mem_filterMap.mp member⟩
  · rw [knownCount] at few
    rw [if_pos few] at fold
    cases fold

/-- What constant terms without a sum are folded to fails as they do: a constant that fails is not known, so
neither null nor the other constants stand for the sum. -/
theorem foldAddition?_fails {error : EvalError} (sums : operator.kind = .addition)
    (constant : areConstant operands = true)
    (failed : addOperands (operandsFor document operands) = .error error)
    (fold : foldAddition? operands = some folded) :
    (folded.result (.operation operator)).outcome document = .error error := by
  rcases Option.or_eq_some_iff.mp fold with whole | ⟨_, fold⟩
  · obtain ⟨_, value, success, _⟩ := foldConstant?_eq_some_iff.mp whole
    rw [operandsFor_of_areConstant constant, success] at failed
    cases failed
  dsimp only at fold
  rcases unlessNull_fails constant failed with fails | ⟨known, present, failed⟩
  · split at fold
    · next vanishes =>
      have known (operand : Tree) (member : operand ∈ operands) : operand.literalValue?.isSome = true := by
        have here := List.all_eq_true.mp (Bool.and_eq_true_iff.mp vanishes).1 operand member
        rwa [areConstant_iff.mp constant operand member, Bool.not_true, Bool.false_or] at here
      exact absurd ((values_of_literals known document).symm.trans fails) (Except.ok_ne_error _ _)
    · split at fold
      · cases fold
      · obtain ⟨term, _, rfl⟩ := Option.map_eq_some_iff.mp fold
        rw [Folded.result, outcome, sums]
        exact Operand.unlessNull_eq_error_iff.mpr (.inl (values_collectAt fails))
  · rw [kinds_operandsFor] at failed
    rw [present, Bool.and_false, if_neg Bool.false_ne_true, List.filter_eq_self.mpr known, failed] at fold
    split at fold
    · cases fold
    · cases fold

/-- A folded sum covers the sum unless constants are collected behind a variable term. -/
theorem foldAddition?_covers (sums : operator.kind = .addition)
    (still : areConstant operands = true ∨ knownCount operands < 2)
    (fold : foldAddition? operands = some folded) :
    Covers document operator operands (folded.result (.operation operator)) := by
  rcases Option.or_eq_some_iff.mp fold with whole | ⟨unfolded, _⟩
  · exact covers_of_foldConstant? (by rw [sums]; exact whole)
  rw [Covers, sums, OperatorKind.apply]
  cases constant : areConstant operands with
  | true =>
    obtain ⟨error, failed⟩ := exists_error constant unfolded document
    exact .inl ((foldAddition?_fails sums constant failed fold).trans failed.symm)
  | false =>
    obtain ⟨rfl, operand, member, null⟩ := foldAddition?_of_few constant
      (still.resolve_left (by rw [constant]; exact Bool.false_ne_true)) fold
    rw [Folded.result_literal, outcome]
    cases result : addOperands (operandsFor document operands) with
    | error error => exact .inr ⟨⟨error, rfl⟩, any_hasValue _ member null⟩
    | ok value => rw [eq_null_of_unlessNull member null result]; exact .inl rfl

/-- A sum of which nothing is collected fails where its operands do. -/
theorem appliedSum_covers (sums : operator.kind = .addition)
    (still : areConstant operands = true ∨ knownCount operands < 2) :
    Covers document operator operands (Folded.applied operator operands (foldAddition? operands)) := by
  rw [Folded.applied_eq]
  cases fold : foldAddition? operands with
  | none => exact .inl (by rw [Option.map_none, Option.getD_none, outcome])
  | some folded => exact foldAddition?_covers sums still fold

end Sums

section Differences

variable {document : Option Json}

theorem orOverflow_eq_ok_iff {result : Option Long} {n : Long} :
    Long.orOverflow result = .ok n ↔ result = some n := by
  cases result with
  | none => simp only [Long.orOverflow, reduceCtorEq]
  | some m => rw [Long.orOverflow, Except.ok.injEq, Option.some.injEq]

theorem Value.combineLongs_cons (combine : Long → Long → Option Long) (start n : Long) (rest : List Value) :
    combineLongs combine start (.long n :: rest) =
      Long.orOverflow (combine start n) >>= fun total => combineLongs combine total rest := by
  rw [combineLongs, List.foldlM_cons, asLong_long, Except.ok_bind]
  rfl

/-- A long less another one is the sum with the opposite of the other one. -/
theorem Value.difference_pair {left right opposite : Long} (opposed : right.neg? = some opposite) :
    difference .long [.long left, .long right] = sum .long [.long left, .long opposite] := by
  have start (n : Long) : Long.add? 0 n = some n := by
    rw [Long.add?, Long.ofInt?_eq_some_iff]
    exact (Int.zero_add _).symm
  have single : sum .long [.long right] = .ok (.long right) := by
    rw [sum, if_pos rfl, combineLongs_cons, start]
    rfl
  have same : left.sub? right = left.add? opposite := by
    rw [Long.sub?, Long.add?, Long.ofInt?_eq_some_iff.mp opposed, Int.sub_eq_add_neg]
  rw [difference, single, Except.ok_bind, if_pos rfl, asLong_long, Except.ok_bind, asLong_long,
    Except.ok_bind, same, sum, if_pos rfl, combineLongs_cons, start, Long.orOverflow, Except.ok_bind,
    combineLongs_cons]
  cases left.add? opposite <;> rfl

/-- Differences of doubles never fail. -/
theorem Value.exists_difference_double {values : List Value}
    (numbers : ∀ value ∈ values, ∃ x, value.asDouble = .ok x) :
    ∃ value, difference .double values = .ok value := by
  cases values with
  | nil => exact ⟨.null, rfl⟩
  | cons first rest =>
    obtain ⟨⟨left, number⟩, others⟩ := List.forall_mem_cons.mp numbers
    obtain ⟨right, total⟩ := combineDoubles_eq_ok Double.add others Double.zero
    refine ⟨.double (left.sub right), ?_⟩
    rw [difference, sum, if_neg (by decide), total, Except.map_ok, Except.ok_bind, if_neg (by decide), number,
      Except.ok_bind, asDouble_double, Except.ok_bind]

/-- Nothing but null has null as its opposite. -/
theorem Value.eq_null_of_negate {value : Value} (negated : value.negate = .ok .null) : value = .null := by
  unfold negate at negated
  split at negated
  · rfl
  · obtain ⟨_, _, same⟩ := Except.map_eq_ok_iff.mp negated
    cases same
  · obtain ⟨_, _, same⟩ := Except.map_eq_ok_iff.mp negated
    cases same

/-- An operand that arithmetic computes in longs is null or a long. -/
theorem eq_long_of_typed {operands : List Tree} (long : Kind.promoted (kinds operands) = .long)
    (numeric : Kind.double.takesAll (kinds operands) = true)
    (typed : ∀ operand ∈ operandsFor document operands, operand.Typed fun _ => True) {operand : Tree}
    (member : operand ∈ operands) {value : Value} (success : operand.outcome document = .ok value) :
    value = .null ∨ ∃ n, value = .long n := by
  have fits : value.Fits operand.kind := forall_typed_iff.mp typed operand member value success
  exact fits.long (long ▸ Kind.takes_promoted numeric _ (mem_kinds.mpr ⟨operand, member, rfl⟩))

/-- In longs, a term less a constant is the sum of the term and the opposite of the constant. -/
theorem addOperands_opposite {negation : Tag} {left right : Tree} {opposites : List Tree}
    (constant : right.isConstant = true) (opposed : [right].mapM (opposite? negation) = some opposites)
    (long : Kind.promoted (kinds [left, right]) = .long)
    (numeric : Kind.double.takesAll (kinds [left, right]) = true)
    (typed : ∀ operand ∈ operandsFor document [left, right], operand.Typed fun _ => True) :
    addOperands (operandsFor document (left :: opposites)) =
      subtractOperands (operandsFor document [left, right]) := by
  have longToo : Kind.promoted (kinds (left :: opposites)) = .long := by
    rw [← long]
    refine Kind.promoted_congr ?_
    rw [kinds, kinds.eq_2 left [right], List.mem_cons, List.mem_cons, (opposites_shaped opposed).1]
  obtain ⟨opposite, rfl, here⟩ := eq_singleton_of_mapM opposed
  obtain ⟨fails, succeeds⟩ := outcome_of_opposite? document constant here
  rw [addOperands, subtractOperands, kinds_operandsFor, kinds_operandsFor, long, longToo]
  simp only [operandsFor, Operand.unlessNull, Operand.values, List.mapM_cons, List.mapM_nil]
  cases first : left.outcome document with
  | error error => rfl
  | ok value =>
    cases second : right.outcome document with
    | error error => rw [fails error second]; rfl
    | ok other =>
      obtain ⟨minus, negated, rfl⟩ := succeeds other second
      have term := eq_long_of_typed long numeric typed (by simp) first
      have subtrahend := eq_long_of_typed long numeric typed (by simp) second
      rcases subtrahend with rfl | ⟨m, rfl⟩
      · obtain rfl := Except.ok.inj negated
        rcases term with rfl | ⟨n, rfl⟩ <;> rfl
      · obtain ⟨negative, within, rfl⟩ := Except.map_eq_ok_iff.mp negated
        rcases term with rfl | ⟨n, rfl⟩
        · rfl
        · exact (Value.difference_pair (orOverflow_eq_ok_iff.mp within)).symm

variable {operator : Operator} {operands : List Tree} {folded : Folded} {addition negation : Tag}

/-- A difference that is not folded to its value is folded as the sum of its first term and the opposites
of the others. -/
theorem exists_opposites
    (unfolded : foldConstant? (Kind.promoted (kinds operands)) subtractOperands operands = none)
    (fold : foldSubtraction? addition negation operands = some folded) :
    ∃ first rest opposites, operands = first :: rest ∧ rest.any isConstant = true ∧
      rest.mapM (opposite? negation) = some opposites ∧
      folded = .tree (Folded.applied ⟨addition, .addition⟩ (first :: opposites)
        (foldAddition? (first :: opposites))) := by
  unfold foldSubtraction? at fold
  rw [unfolded, Option.none_or] at fold
  cases operands with
  | nil => cases fold
  | cons first rest =>
    dsimp only at fold
    split at fold
    · next constants =>
      obtain ⟨opposites, opposed, fold⟩ := Option.bind_eq_some_iff.mp fold
      exact ⟨first, rest, opposites, rfl, constants, opposed, (Option.some.inj fold).symm⟩
    · cases fold

/-- The operands of a difference that folding leaves in their order are one term and a constant, in longs. -/
theorem eq_pair_of_still {first : Tree} {rest : List Tree} (several : 2 ≤ (first :: rest).length)
    (varying : areConstant (first :: rest) = false) (constants : rest.any isConstant = true)
    (still : (OperatorKind.subtraction addition negation).rearranges (first :: rest) = false) :
    ∃ right, rest = [right] ∧ right.isConstant = true ∧ first.isConstant = false ∧
      Kind.promoted (kinds [first, right]) = .long := by
  rw [OperatorKind.rearranges, varying, List.drop_one, List.tail_cons, constants, Bool.not_false,
    Bool.and_self, Bool.true_and, Bool.or_eq_false_iff, decide_eq_false_iff_not] at still
  obtain ⟨short, single⟩ := still
  obtain ⟨right, rfl⟩ : ∃ right, rest = [right] := by
    rw [List.length_cons] at several short
    exact List.length_eq_one_iff.mp (by omega)
  rw [List.any_cons, List.any_nil, Bool.or_false] at constants
  rw [areConstant, areConstant, areConstant, constants, Bool.and_true, Bool.and_true] at varying
  refine ⟨right, rfl, constants, varying, (Kind.promoted_eq _).resolve_right fun double => ?_⟩
  rw [double] at single
  cases single

/-- A variable term and the opposite of another one are not collected. -/
theorem knownCount_opposites {left right : Tree} {opposites : List Tree} (varying : left.isConstant = false)
    (opposed : [right].mapM (opposite? negation) = some opposites) : knownCount (left :: opposites) < 2 := by
  obtain ⟨opposite, rfl, _⟩ := eq_singleton_of_mapM opposed
  have unknown : left.literalValue?.isSome = false := by
    rw [literalValue?, varying, if_neg Bool.false_ne_true, Option.isSome_none]
  rw [knownCount, List.filter_cons_of_neg (by rw [unknown]; exact Bool.false_ne_true)]
  exact Nat.lt_succ_of_le (List.length_filter_le _ _)

/-- The opposite of a constant is null only if the constant is. -/
theorem any_null_of_opposite {left right : Tree} {opposites : List Tree} (constant : right.isConstant = true)
    (opposed : [right].mapM (opposite? negation) = some opposites)
    (null : (operandsFor document (left :: opposites)).any (·.hasValue .null) = true) :
    (operandsFor document [left, right]).any (·.hasValue .null) = true := by
  obtain ⟨opposite, rfl, here⟩ := eq_singleton_of_mapM opposed
  obtain ⟨fails, succeeds⟩ := outcome_of_opposite? document constant here
  simp only [operandsFor, List.any_cons, List.any_nil, Bool.or_false, Bool.or_eq_true,
    Operand.hasValue_iff] at null ⊢
  refine null.imp id fun null => ?_
  cases second : right.outcome document with
  | error error => exact absurd (null.symm.trans (fails error second)) (Except.ok_ne_error _ _)
  | ok value =>
    obtain ⟨minus, negated, rfl⟩ := succeeds value second
    rw [outcome] at null
    obtain rfl := Except.ok.inj null
    rw [Value.eq_null_of_negate negated]

/-- Constants whose difference is not folded to a value fail in the sum with the opposites as well, unless
all of them evaluate and they are three or more. -/
theorem addOperands_opposites_fails {first : Tree} {rest opposites : List Tree} {error : EvalError}
    (constant : areConstant (first :: rest) = true) (several : 2 ≤ (first :: rest).length)
    (numeric : Kind.double.takesAll (kinds (first :: rest)) = true)
    (typed : ∀ operand ∈ operandsFor document (first :: rest), operand.Typed fun _ => True)
    (opposed : rest.mapM (opposite? negation) = some opposites)
    (failed : subtractOperands (operandsFor document (first :: rest)) = .error error) :
    addOperands (operandsFor document (first :: opposites)) = .error error ∨
      3 ≤ (first :: rest).length ∧ (operandsFor document (first :: rest)).all Operand.isKnown = true := by
  rw [areConstant, Bool.and_eq_true] at constant
  rcases Operand.unlessNull_eq_error_iff.mp failed with fails | ⟨found, success, present, overflow⟩
  · refine .inl (Operand.unlessNull_eq_error_iff.mpr (.inl ?_))
    rw [operandsFor, Operand.values_cons_eq_error_iff] at fails ⊢
    exact fails.imp id (Exists.imp fun _ => And.imp_right (values_opposites constant.2 opposed))
  by_cases long : 3 ≤ (first :: rest).length
  · exact .inr ⟨long, Operand.all_isKnown_of_values success⟩
  obtain ⟨right, rfl⟩ : ∃ right, rest = [right] := by
    rw [List.length_cons] at several long
    exact List.length_eq_one_iff.mp (by omega)
  rw [areConstant, areConstant, Bool.and_true] at constant
  rcases Kind.promoted_eq (kinds [first, right]) with long | double
  · exact .inl (by rwa [addOperands_opposite constant.2 opposed long numeric typed])
  · have numbers := Operand.values_yields typed fun operand member =>
      Operand.takes_of_takesAll (by rwa [kinds_operandsFor]) operand member
    rw [success] at numbers
    obtain ⟨value, difference⟩ := Value.exists_difference_double fun value member =>
      Value.asDouble_of_takes (numbers value member) (Bool.eq_false_iff.mpr fun null =>
        (List.any_eq_false.mp present) value member null)
    rw [kinds_operandsFor, double, difference] at overflow
    cases overflow

/-- A folded difference covers the difference unless it moves its operands. -/
theorem foldSubtraction?_covers (subtracts : operator.kind = .subtraction addition negation)
    (still : areConstant operands = true ∨ operator.kind.rearranges operands = false)
    (accepted : operator.accepts operands = true)
    (typed : ∀ operand ∈ operandsFor document operands, operand.Typed fun _ => True)
    (fold : foldSubtraction? addition negation operands = some folded) :
    Covers document operator operands (folded.result (.operation operator)) := by
  rcases Option.or_eq_some_iff.mp fold with whole | ⟨unfolded, _⟩
  · exact covers_of_foldConstant? (by rw [subtracts]; exact whole)
  obtain ⟨first, rest, opposites, rfl, constants, opposed, rfl⟩ := exists_opposites unfolded fold
  rw [Operator.accepts, subtracts, OperatorKind.accepts, Bool.and_eq_true, decide_eq_true_eq,
    kinds_eq_map, List.length_map, ← kinds_eq_map] at accepted
  obtain ⟨several, numeric⟩ := accepted
  rw [subtracts] at still
  rw [Folded.result, Covers, subtracts, OperatorKind.apply]
  have sum (stillToo : areConstant (first :: opposites) = true ∨ knownCount (first :: opposites) < 2) :
      Covers document ⟨addition, .addition⟩ (first :: opposites) (Folded.applied ⟨addition, .addition⟩
        (first :: opposites) (foldAddition? (first :: opposites))) := appliedSum_covers rfl stillToo
  cases constant : areConstant (first :: rest) with
  | true =>
    obtain ⟨error, failed⟩ := exists_error constant unfolded document
    have constantToo : areConstant (first :: opposites) = true := by
      rw [areConstant, Bool.and_eq_true] at constant ⊢
      exact ⟨constant.1, (opposites_shaped opposed).2 constant.2⟩
    rcases addOperands_opposites_fails constant several numeric typed opposed failed with fails | ⟨long, all⟩
    · refine .inl (((sum (.inl constantToo)).resolve_right fun concealed => ?_).trans (fails.trans failed.symm))
      rw [constantToo] at concealed
      exact Bool.false_ne_true concealed.2
    · refine .inr ⟨⟨error, failed⟩, ?_⟩
      rw [OperatorKind.conceals, all, operandsFor_eq_map, List.length_map, decide_eq_true long, Bool.and_self,
        Bool.or_true]
  | false =>
    obtain ⟨right, rfl, constantRight, varying, long⟩ := eq_pair_of_still several constant constants
      (still.resolve_left (by rw [constant]; exact Bool.false_ne_true))
    rw [← addOperands_opposite constantRight opposed long numeric typed]
    refine (sum (.inr (knownCount_opposites varying opposed))).imp id (And.imp id fun concealed => ?_)
    rw [OperatorKind.conceals, Bool.and_eq_true] at concealed
    rw [OperatorKind.conceals, any_null_of_opposite constantRight opposed concealed.2]
    rfl

end Differences

end Reckoner
