import Reckoner.Proofs.Folding.Constant
import Reckoner.Proofs.Folding.Covering
import Reckoner.Proofs.Integer.Agreement

/-! # Failures after reduction

Reduction may lose a failure and may bring one in. It loses one where an operator that fails has an operand
that settles it without the failure; a constant expression in which no part does is reduced to one with the
very same outcome. It brings one in where constants are moved past variables in sums, differences and
products, since these then form other longs on the way; an expression in which no part is rearranged keeps
its value, and among longs the only failure that a rearranged one can add is an overflow.

The function that asks whether its operands evaluate turns a lost failure into another truth value. So
whatever is said of values asks that no failure is concealed from it.
-/

namespace Reckoner

open Reckoner.Tree

namespace Tree

/-- The part fails, and folding may conceal it. -/
def conceals (document : Option Json) : Tree → Bool
  | operation operator operands =>
    (operator.kind.apply (operandsFor document operands)).toOption.isNone &&
      operator.kind.conceals (areConstant operands) (operandsFor document operands)
  | _ => false

/-- No failure of any part is concealed. -/
def Lossless (document : Option Json) (tree : Tree) : Prop := tree.All (conceals document · = false)

instance (document : Option Json) (tree : Tree) : Decidable (Lossless document tree) :=
  inferInstanceAs (Decidable (tree.All (conceals document · = false)))

/-- The part does not ask whether its operands evaluate, or no failure of these is concealed. -/
def isCandid (document : Option Json) (tree : Tree) : Bool :=
  !tree.asks || tree.children.all fun operand => operand.Lossless document

/-- No failure is concealed from a function that asks whether its operands evaluate. -/
def Candid (document : Option Json) (tree : Tree) : Prop := tree.All (isCandid document · = true)

instance (document : Option Json) (tree : Tree) : Decidable (Candid document tree) :=
  inferInstanceAs (Decidable (tree.All (isCandid document · = true)))

variable {document : Option Json} {lossless : Prop} {reduced originals : List Tree}

/-- Where nothing is concealed, nothing is concealed from a function that asks for failures. -/
theorem Lossless.candid {tree : Tree} (sound : Lossless document tree) : Candid document tree := by
  intro part within
  rw [isCandid, Bool.or_eq_true, List.all_eq_true]
  exact .inr fun operand member =>
    decide_eq_true (All.within sound (.trans (.child member .self) within))

/-- A function that asks whether its operands evaluate is itself lossless. -/
theorem lossless_of_asks {function : Function} {operands : List Tree}
    (candid : Candid document (.call function operands)) (asks : function.kind = .evaluates) :
    Lossless document (.call function operands) := by
  have here := candid.self
  rw [isCandid, Tree.asks, decide_eq_true asks, Bool.not_true, Bool.false_or, List.all_eq_true] at here
  exact all_of_children rfl fun operand member => of_decide_eq_true (here operand member)

/-- For `document` the expression `reduced` may stand in the place of `original`, and fails where and as that
one does if nothing is to be lost. -/
structure Mirrors (document : Option Json) (lossless : Prop) (reduced original : Tree) : Prop
    extends Reduces document reduced original where
  failure : lossless → ∀ error, original.outcome document = .error error →
    reduced.outcome document = .error error

theorem Mirrors.imp {other : Prop} {tree original : Tree} (mirrors : Mirrors document lossless tree original)
    (stronger : other → lossless) : Mirrors document other tree original :=
  ⟨mirrors.toReduces, fun holds => mirrors.failure (stronger holds)⟩

/-- Where nothing is to be lost, what mirrors an expression has its outcome. -/
theorem Mirrors.same {tree original : Tree} (mirrors : Mirrors document lossless tree original)
    (holds : lossless) : tree.outcome document = original.outcome document := by
  cases result : original.outcome document with
  | ok value => exact mirrors.operand.outcome value result
  | error error => exact mirrors.failure holds error result

/-- What is alike to a mirror of an expression mirrors it too. -/
theorem Alike.mirrors {left right original : Tree} (alike : Alike left right)
    (mirrors : Mirrors document lossless right original) : Mirrors document lossless left original :=
  ⟨alike.reduces mirrors.toReduces, fun holds error failed =>
    (alike.outcome document).trans (mirrors.failure holds error failed)⟩

section Operands

variable (mirrors : List.Forall₂ (Mirrors document lossless) reduced originals)

include mirrors

theorem reduces_of_mirrors : List.Forall₂ (Reduces document) reduced originals :=
  mirrors.imp fun _ _ here => here.toReduces

theorem operandsFor_mirrors (holds : lossless) :
    List.Forall₂ Operand.Mirrors (operandsFor document reduced) (operandsFor document originals) := by
  rw [operandsFor_eq_map, operandsFor_eq_map, List.forall₂_map_left_iff, List.forall₂_map_right_iff]
  exact mirrors.imp fun _ _ here => ⟨here.operand, here.same holds⟩

/-- An operation over mirrors mirrors the operation over the originals. -/
theorem operation_mirrors {operator : Operator} (accepted : operator.accepts originals = true) :
    Mirrors document lossless (.operation operator reduced) (.operation operator originals) := by
  refine ⟨operation_reduces (reduces_of_mirrors mirrors) accepted, fun holds error failed => ?_⟩
  rw [Operator.accepts, ← kinds_operandsFor document] at accepted
  rw [outcome] at failed ⊢
  rwa [OperatorKind.apply_of_mirrors (operandsFor_mirrors mirrors holds) accepted]

/-- A call over mirrors mirrors the call over the originals; one that asks for failures does if none is
lost. -/
theorem call_mirrors {function : Function} (asked : function.kind = .evaluates → lossless)
    (accepted : function.accepts originals = true) :
    Mirrors document lossless (.call function reduced) (.call function originals) := by
  have acceptedToo := accepted
  rw [Function.accepts, ← kinds_operandsFor document] at acceptedToo
  have same (holds : lossless) :
      (Tree.call function reduced).outcome document = (Tree.call function originals).outcome document := by
    rw [outcome, outcome, FunctionKind.apply_of_mirrors (operandsFor_mirrors mirrors holds) acceptedToo]
  refine ⟨?_, fun holds error failed => (same holds).trans failed⟩
  by_cases other : function.kind = .evaluates
  · have sort (operands : List Tree) : (Tree.call function operands).kind = .boolean := by
      rw [Tree.kind, other, FunctionKind.resultKind]
    refine ⟨⟨fun value success => (same (asked other)).trans success, .inl ?_, fun value success => ?_⟩, ?_⟩
    · exact (sort reduced).trans (sort originals).symm
    · dsimp only at success ⊢
      rw [outcome, other] at success
      obtain rfl := Except.ok.inj success
      exact .inr (sort reduced).symm
    · simp only [isConstant]
      exact areConstant_of_reduces (reduces_of_mirrors mirrors)
  · exact call_reduces (reduces_of_mirrors mirrors) other accepted

end Operands

/-- Operands with the outcomes of the original ones keep to their kinds. -/
theorem typed_of_same (reduces : List.Forall₂ (fun operand original => Reduces document operand original ∧
      operand.outcome document = original.outcome document) reduced originals) :
    ∀ operand ∈ operandsFor document reduced, operand.Typed fun _ => True := by
  refine forall_typed_iff.mpr fun operand member value success => ?_
  obtain ⟨original, _, here, same⟩ := exists_of_forall₂ reduces.flip member
  exact here.operand.fits value (same.symm.trans success)

/-- Operands that reduce originals with a value have the outcomes of these. -/
theorem same_of_known (reduces : List.Forall₂ (Reduces document) reduced originals)
    (known : (operandsFor document originals).all Operand.isKnown = true) :
    List.Forall₂ (fun operand original => Reduces document operand original ∧
      operand.outcome document = original.outcome document) reduced originals := by
  induction reduces with
  | nil => exact .nil
  | cons here _ ih =>
    rw [operandsFor, List.all_cons, Bool.and_eq_true] at known
    obtain ⟨value, success⟩ := Operand.exists_of_isKnown known.1
    exact .cons ⟨here, (here.operand.outcome value success).trans success.symm⟩ (ih known.2)

end Tree

section Arithmetic

variable {document : Option Json} {reduced originals : List Tree} {operator : Operator} {folded : Folded}

/-- Arithmetic that has a value has looked at all its operands, or its numerator is nothing. -/
theorem OperatorKind.known_of_success {operator : OperatorKind} (arithmetic : operator.isArithmetic = true)
    {operands : List Operand} {value : Value} (success : operator.apply operands = .ok value) :
    operands.all Operand.isKnown = true ∨ ∃ multiplication numerator divisors first,
      operator = .division multiplication ∧ operands = numerator :: divisors ∧
        numerator.outcome = .ok first ∧ first.isNothing = true := by
  have unlessNull {operands : List Operand} {compute : List Value → Except EvalError Value} {value : Value}
      (success : Operand.unlessNull operands compute = .ok value) :
      operands.all Operand.isKnown = true := by
    obtain ⟨found, success, _⟩ := Except.bind_eq_ok_iff.mp success
    exact Operand.all_isKnown_of_values success
  cases operator with
  | addition | subtraction _ _ | multiplication => exact .inl (unlessNull success)
  | division multiplication =>
    cases operands with
    | nil => exact .inl rfl
    | cons numerator divisors =>
      obtain ⟨first, numerated, success⟩ := Except.bind_eq_ok_iff.mp success
      split at success
      · next nothing => exact .inr ⟨multiplication, numerator, divisors, first, rfl, rfl, numerated, nothing⟩
      · obtain ⟨second, divided, _⟩ := Except.bind_eq_ok_iff.mp success
        refine .inl ?_
        rw [List.all_cons, Operand.isKnown, numerated, Bool.true_and]
        rcases divisors with _ | ⟨single, _ | ⟨next, rest⟩⟩
        · rfl
        · rw [List.all_cons, List.all_nil, Bool.and_true, Operand.isKnown, show single.outcome = _ from divided]
        · exact unlessNull divided
  | _ => cases arithmetic

/-- Arithmetic over reduced operands that is folded without being rearranged reduces the original one. -/
theorem folded_reduces_of_still (reduces : List.Forall₂ (Reduces document) reduced originals)
    (accepted : operator.accepts originals = true) (arithmetic : operator.kind.isArithmetic = true)
    (varying : areConstant reduced = false) (still : operator.kind.rearranges reduced = false)
    (fold : operator.kind.fold? reduced = some folded) :
    Reduces document (folded.result (.operation operator)) (.operation operator originals) := by
  have whole := operation_reduces reduces accepted
  have acceptedToo := accepts_of_reduces reduces accepted
  have answer (value : Value) (success : (Tree.operation operator originals).outcome document = .ok value) :
      (folded.result (.operation operator)).outcome document = .ok value ∧
        value.Fits (folded.result (.operation operator)).kind := by
    have kept : operator.kind.apply (operandsFor document reduced) = .ok value := by
      have kept := whole.operand.outcome value success
      dsimp only at kept
      rwa [outcome] at kept
    have plain : operator.kind.apply (operandsFor document originals) = .ok value := by rwa [outcome] at success
    rcases OperatorKind.known_of_success arithmetic plain with
      known | ⟨multiplication, numerator, divisors, first, divides, same, numerated, nothing⟩
    · have typed := typed_of_same (same_of_known reduces known)
      rcases fold?_covers (.inr still) acceptedToo typed fold with here | ⟨⟨error, failed⟩, _⟩
      · rw [kept] at here
        exact ⟨here, fits_of_fold? arithmetic varying still typed fold here (whole.operand.fits value success)⟩
      · exact absurd (kept.symm.trans failed) (Except.ok_ne_error _ _)
    · rcases reduces with _ | @⟨operand, original, rest, others, here, _⟩
      · cases same
      rw [operandsFor] at same plain
      obtain ⟨rfl, rfl⟩ := List.cons.inj same
      rw [divides, OperatorKind.apply, divideOperands, numerated, Except.ok_bind, if_pos nothing] at plain
      obtain rfl := Except.ok.inj plain
      have numerated := here.operand.outcome first numerated
      have fold : foldDivision? multiplication (operand :: rest) = some folded := by
        rwa [divides, OperatorKind.fold?] at fold
      refine ⟨foldDivision?_of_nothing divides (.inr still) fold numerated nothing, .inr ?_⟩
      rw [kind_of_foldDivision? divides fold]
      rfl
  refine ⟨⟨fun value success => (answer value success).1, ?_, fun value success => (answer value success).2⟩,
    fun constant => ?_⟩
  · exact (weakens_of_fold? arithmetic acceptedToo fold).trans whole.operand.kind
  · rw [isConstant] at constant
    exact absurd (varying.symm.trans (areConstant_of_reduces reduces constant)) Bool.false_ne_true

end Arithmetic

section Steps

variable {document : Option Json} {lossless : Prop} {reduced originals : List Tree}

/-- Mirrors keep to their kinds, as the originals do. -/
theorem typed_of_mirrors (mirrors : List.Forall₂ (Mirrors document lossless) reduced originals)
    (holds : lossless) : ∀ operand ∈ operandsFor document reduced, operand.Typed fun _ => True :=
  typed_of_same (mirrors.imp fun _ _ here => ⟨here.toReduces, here.same holds⟩)

/-- What a constant condition chooses fails as the conditional does. -/
theorem foldConditional?_fails {again : List Tree → Tree} {folded : Folded} {error : EvalError}
    (typed : ∀ operand ∈ operandsFor document reduced, operand.Typed fun _ => True)
    (failed : chooseOperand (operandsFor document reduced) = .error error)
    (fold : foldConditional? reduced = some folded) :
    (folded.result again).outcome document = .error error := by
  obtain ⟨test, left, right, others, decision, truth, branch, rfl, decided, read, chosen, member, shape⟩ :=
    exists_branch_of_foldConditional? fold
  have common := kinds_operandsFor document (left :: right :: others)
  rw [operandsFor, operandsFor] at common
  rw [operandsFor, operandsFor, operandsFor, chooseOperand, outcome_of_literalValue? decided, Except.ok_bind,
    read, Except.ok_bind, common] at failed
  have failed : (branch.outcome document >>= Value.coerce (Kind.joined (kinds (left :: right :: others)))) =
      .error error := by
    rw [chosen]
    split at failed
    · next yes => rwa [if_pos yes]
    · next no => rwa [if_neg no]
  rcases shape with ⟨same, rfl⟩ | ⟨value, result, evaluated, coerced, _⟩
  · rw [Folded.result]
    rcases Except.bind_eq_error_iff.mp failed with fails | ⟨value, success, uncoerced⟩
    · exact fails
    have fits : value.Fits branch.kind := forall_typed_iff.mp typed branch member value success
    rw [← same, fits.coerce_self] at uncoerced
    cases uncoerced
  · rw [outcome_of_literalValue? evaluated, Except.ok_bind, coerced] at failed
    cases failed

/-- What a function that fails is folded to fails as it does. -/
theorem folded_fails {function : Function} {folded : Folded} {error : EvalError}
    (typed : ∀ operand ∈ operandsFor document reduced, operand.Typed fun _ => True)
    (failed : function.kind.apply (operandsFor document reduced) = .error error)
    (fold : function.kind.fold? reduced = some folded) :
    (folded.result (.call function)).outcome document = .error error := by
  have whole {kind : Kind} (fold : foldConstant? kind function.kind.apply reduced = some folded) :
      (folded.result (.call function)).outcome document = .error error := by
    obtain ⟨constant, value, success, _⟩ := foldConstant?_eq_some_iff.mp fold
    rw [operandsFor_of_areConstant constant, success] at failed
    cases failed
  cases form : function.kind with
  | conditional =>
    rw [form] at failed fold
    exact foldConditional?_fails typed failed fold
  | noNull =>
    rw [form] at failed fold
    obtain ⟨value, _, success⟩ := firstValue_of_foldFirstValue? document fold
    rw [FunctionKind.apply, kinds_operandsFor, success] at failed
    cases failed
  | isNull | noZero | hexadecimal | squareRoot | kindName =>
    rw [form, FunctionKind.fold?, foldLiteral?.eq_def] at fold
    split at fold
    · exact whole (by rw [form]; exact fold)
    · cases fold
  | absolute | round | least | greatest | length | upper | lower =>
    rw [form] at fold
    exact whole (by rw [form]; exact fold)
  | evaluates | now _ =>
    rw [form] at fold
    cases fold

/-- What an operator that rearranges nothing is folded to mirrors it. -/
theorem folded_mirrors {operator : Operator} {folded : Folded}
    (mirrors : List.Forall₂ (Mirrors document lossless) reduced originals)
    (accepted : operator.accepts originals = true)
    (still : areConstant reduced = true ∨ operator.kind.rearranges reduced = false)
    (sound : lossless → conceals document (.operation operator originals) = false)
    (fold : operator.kind.fold? reduced = some folded) :
    Mirrors document lossless (folded.result (.operation operator)) (.operation operator originals) := by
  have reduces := reduces_of_mirrors mirrors
  have acceptedToo := accepts_of_reduces reduces accepted
  refine ⟨?_, fun holds error failed => ?_⟩
  · by_cases constant : operator.kind.isArithmetic = true → areConstant reduced = true
    · exact (fold?_keeps document acceptedToo constant folded fold).reduces (operation_reduces reduces accepted)
    · obtain ⟨arithmetic, varying⟩ := Classical.not_imp.mp constant
      exact folded_reduces_of_still reduces accepted arithmetic (Bool.eq_false_iff.mpr varying)
        (still.resolve_left varying) fold
  · have same := (operation_mirrors mirrors accepted).same holds
    have failedToo := failed
    rw [outcome] at same failedToo
    rw [failed] at same
    refine ((fold?_covers still acceptedToo (typed_of_mirrors mirrors holds) fold).resolve_right
      fun concealed => ?_).trans same
    have concealedToo := OperatorKind.conceals_of_mirrors (operandsFor_mirrors mirrors holds)
      (areConstant_of_reduces reduces) concealed.2
    have sound := sound holds
    rw [conceals, failedToo, concealedToo] at sound
    cases sound

end Steps

namespace Engine

/-- The part is arithmetic over a variable, and reduction moves constants past it or makes away with it. -/
def rearranges (engine : Engine) : Tree → Bool
  | .operation operator operands =>
    !areConstant operands && operator.kind.rearranges (engine.reduceAll operands)
  | _ => false

variable {engine : Engine} {document : Option Json} {lossless : Prop} {reduced originals : List Tree}

/-- Folding an operator over mirrors mirrors the operation over the originals, if it moves nothing and
conceals no failure. -/
theorem foldOperation_mirrors {operator : Operator}
    (mirrors : List.Forall₂ (Mirrors document lossless) reduced originals)
    (accepted : operator.accepts originals = true)
    (still : areConstant reduced = true ∨ operator.kind.rearranges reduced = false)
    (sound : lossless → conceals document (.operation operator originals) = false) :
    Mirrors document lossless (engine.foldOperation operator reduced) (.operation operator originals) := by
  unfold foldOperation
  split
  · next result fold =>
    exact (engine.regroupDeep_alike _).mirrors (folded_mirrors mirrors accepted still sound fold)
  · next folded fold =>
    exact (engine.regroupDeep_alike _).mirrors (folded_mirrors mirrors accepted still sound fold)
  · exact (engine.regroup_alike operator reduced).mirrors (operation_mirrors mirrors accepted)

/-- Folding a function over mirrors mirrors the call over the originals. -/
theorem foldCall_mirrors {function : Function}
    (mirrors : List.Forall₂ (Mirrors document lossless) reduced originals)
    (asked : function.kind = .evaluates → lossless) (accepted : function.accepts originals = true) :
    Mirrors document lossless (engine.foldCall function reduced) (.call function originals) := by
  have whole := call_mirrors mirrors asked accepted
  have folded {folded : Folded} (fold : function.kind.fold? reduced = some folded) :
      Mirrors document lossless (folded.result (.call function)) (.call function originals) := by
    have other : function.kind ≠ .evaluates := fun form => by rw [form] at fold; cases fold
    refine ⟨folded_reduces (reduces_of_mirrors mirrors) other accepted fold, fun holds error failed => ?_⟩
    have failed := whole.failure holds error failed
    rw [outcome] at failed
    exact folded_fails (typed_of_mirrors mirrors holds) failed fold
  unfold foldCall
  split
  · next result fold => exact (engine.regroupDeep_alike _).mirrors (folded fold)
  · next operands fold => exact (engine.regroupDeep_alike _).mirrors (folded fold)
  · exact whole

/-- A typed expression without rearranged parts mirrors in its reduction, and if no failure is concealed,
failures do as well. -/
theorem reduce_mirrors {tree : Tree} (typed : tree.Typed) (still : tree.All (engine.rearranges · = false))
    (candid : Candid document tree) :
    Mirrors document (Lossless document tree) (engine.reduce tree) tree := by
  have self {tree : Tree} (typed : tree.Typed) : Mirrors document (Lossless document tree) tree tree :=
    ⟨typed.reduces document, fun _ _ => id⟩
  induction typed with
  | literal sort => exact self (.literal sort)
  | constant sort => exact self (.constant sort)
  | input => exact self .input
  | @operation operator operands _ accepted ih =>
    have parts : List.Forall₂ (Mirrors document (Lossless document (.operation operator operands)))
        (engine.reduceAll operands) operands := by
      rw [reduceAll_eq_map]
      exact forall₂_map_self fun operand member => (ih operand member (still.within (.operand member))
        (All.within candid (.operand member))).imp fun sound => All.within sound (.operand member)
    have here := still.self
    rw [rearranges, Bool.and_eq_false_iff, Bool.not_eq_false'] at here
    rw [reduce]
    exact foldOperation_mirrors parts accepted
      (here.imp (areConstant_of_reduces (reduces_of_mirrors parts)) id) fun sound => sound.self
  | @call function operands _ accepted ih =>
    rw [reduce]
    refine foldCall_mirrors ?_ ((lossless_of_asks candid)) accepted
    rw [reduceAll_eq_map]
    exact forall₂_map_self fun operand member => (ih operand member (still.within (.argument member))
      (All.within candid (.argument member))).imp fun sound => All.within sound (.argument member)
  | @block inner _ ih =>
    have here := ih (still.within .inside) (All.within candid .inside)
    rw [reduce]
    exact ⟨⟨by rw [Tree.kind, Tree.outcome]; exact here.operand, by rw [isConstant]; exact here.constant⟩,
      fun sound error failed => here.failure (All.within sound .inside) error (by rwa [outcome] at failed)⟩

/-- Constants are never rearranged. -/
theorem all_rearranges_of_isConstant {tree : Tree} (constant : tree.isConstant = true) :
    tree.All (engine.rearranges · = false) := by
  intro part within
  have here := isConstant_of_within within constant
  cases part with
  | operation operator operands =>
    rw [isConstant] at here
    rw [rearranges, here, Bool.not_true, Bool.false_and]
  | _ => rfl

/-- Reduction keeps the value of a constant unless it conceals a failure from a function that asks for one,
and it keeps the outcome of a constant in which it conceals no failure at all, be it a value or a failure. -/
theorem reduce_constant {text : List Char} {tree : Tree} (constants : engine.ConstantsFit)
    (read : engine.parse text = .ok tree) (constant : tree.isConstant = true) :
    (Candid none tree → ∀ value, tree.outcome none = .ok value →
      (engine.reduce tree).outcome none = .ok value) ∧
    (Lossless none tree → (engine.reduce tree).outcome none = tree.outcome none) := by
  have mirrors (candid : Candid none tree) : Mirrors none (Lossless none tree) (engine.reduce tree) tree :=
    reduce_mirrors (typed_of_parse constants read) (all_rearranges_of_isConstant constant) candid
  exact ⟨fun candid => (mirrors candid).operand.outcome, fun sound => (mirrors sound.candid).same sound⟩

theorem reduce_constant_of_overflow :
    let engine := standard 0 ⟨Date.epoch, Time.midnight⟩
    (∃ tree, engine.parse "If(Calculate(9223372036854775807 + 1), 0 * (9223372036854775807 + 1), 2 * 3)".toList =
        .ok tree ∧ (engine.reduce tree).outcome none = .ok (.long ⟨6, by decide, by decide⟩)) ∧
      ∃ tree, engine.parse "1 + (9223372036854775807 + 1) + 2".toList = .ok tree ∧
        (tree.outcome none).toOption = none ∧ (engine.reduce tree).outcome none = tree.outcome none := by
  intro engine
  have constants : engine.ConstantsFit := constantsFit_standard 0 ⟨Date.epoch, Time.midnight⟩
  constructor
  · have checks : (engine.parse
        "If(Calculate(9223372036854775807 + 1), 0 * (9223372036854775807 + 1), 2 * 3)".toList).toOption.map
        (fun tree => (tree.isConstant, decide (Candid none tree), (tree.outcome none).toOption)) =
        some (true, true, some (.long ⟨6, by decide, by decide⟩)) := by decide +kernel
    obtain ⟨tree, read, checks⟩ := Option.map_eq_some_iff.mp checks
    simp only [Prod.mk.injEq, decide_eq_true_eq, Except.toOption_eq_some_iff] at checks
    obtain ⟨constant, candid, success⟩ := checks
    have read := Except.toOption_eq_some_iff.mp read
    exact ⟨tree, read, (reduce_constant constants read constant).1 candid _ success⟩
  · have checks : (engine.parse "1 + (9223372036854775807 + 1) + 2".toList).toOption.map (fun tree =>
        (tree.isConstant, decide (Lossless none tree), (tree.outcome none).toOption)) =
        some (true, true, none) := by decide +kernel
    obtain ⟨tree, read, checks⟩ := Option.map_eq_some_iff.mp checks
    simp only [Prod.mk.injEq, decide_eq_true_eq] at checks
    obtain ⟨constant, sound, fails⟩ := checks
    have read := Except.toOption_eq_some_iff.mp read
    exact ⟨tree, read, fails, (reduce_constant constants read constant).2 sound⟩

/-- A zero factor conceals that another factor fails. -/
theorem exists_concealed : ∃ tree,
    (standard 0 ⟨Date.epoch, Time.midnight⟩).parse "0 * (9223372036854775807 + 1)".toList = .ok tree ∧
      tree.isConstant = true ∧ (tree.outcome none).toOption = none ∧
      ((standard 0 ⟨Date.epoch, Time.midnight⟩).reduce tree).outcome none = .ok (.long 0) := by
  have checks : ((standard 0 ⟨Date.epoch, Time.midnight⟩).parse
      "0 * (9223372036854775807 + 1)".toList).toOption.map (fun tree =>
        (tree.isConstant, (tree.outcome none).toOption,
          (((standard 0 ⟨Date.epoch, Time.midnight⟩).reduce tree).outcome none).toOption)) =
      some (true, none, some (.long 0)) := by decide +kernel
  obtain ⟨tree, read, checks⟩ := Option.map_eq_some_iff.mp checks
  obtain ⟨constant, fails, reduced⟩ := by simpa only [Prod.mk.injEq] using checks
  exact ⟨tree, Except.toOption_eq_some_iff.mp read, constant, fails, Except.toOption_eq_some_iff.mp reduced⟩

/-- Reduction brings no failure into an expression of which it rearranges no part and in which it conceals no
failure from a function that asks for one; and if all is computed in longs and truth values, all that it can
bring into any expression is an overflow. -/
theorem reduce_succeeds {text : List Char} {tree : Tree} {document : Json}
    (constants : engine.ConstantsFit) (read : engine.parse text = .ok tree) :
    (tree.All (engine.rearranges · = false) → Candid (some document) tree →
      ∀ value, tree.outcome (some document) = .ok value →
        (engine.reduce tree).outcome (some document) = .ok value) ∧
    (tree.All (isIntegral · = true) →
      (∀ item ∈ tree.inputs, ∃ n, item.outcome (some document) = .ok (.long n)) →
      ∀ value, tree.outcome (some document) = .ok value →
        (engine.reduce tree).outcome (some document) = .ok value ∨
          (engine.reduce tree).outcome (some document) = .error .overflow) := by
  have typed := typed_of_parse constants read
  refine ⟨fun still candid => (reduce_mirrors typed still candid).operand.outcome,
    fun integral bound value success => ?_⟩
  have agrees : engine.Agrees (some document) tree := agrees_of_typed typed integral bound
  obtain ⟨amount, here, there⟩ := agrees
  have yields := here.outcome
  have yieldsToo := there.outcome
  dsimp only at yields yieldsToo
  rw [success] at yields
  cases result : (engine.reduce tree).outcome (some document) with
  | ok other =>
    rw [result] at yieldsToo
    exact .inl (congrArg _ (yieldsToo.unique yields))
  | error error =>
    rw [result] at yieldsToo
    exact .inr (congrArg _ yieldsToo)

theorem reduce_succeeds_of_terms :
    let engine := (standard 0 ⟨Date.epoch, Time.midnight⟩).addVariable "x" ⟨40, "/x", .long⟩
    let document := Json.object [("x", .integer 1)]
    (∃ tree, engine.parse "x - 1 + 2 * 3".toList = .ok tree ∧
      (engine.reduce tree).outcome (some document) = .ok (.long ⟨6, by decide, by decide⟩)) ∧
    ∃ tree, engine.parse "x * 2 * x * 3 + 4 - x".toList = .ok tree ∧
      (engine.reduce tree).outcome (some document) = .ok (.long ⟨9, by decide, by decide⟩) := by
  intro engine document
  have constants : engine.ConstantsFit := constantsFit_standard 0 ⟨Date.epoch, Time.midnight⟩
  constructor
  · have checks : (engine.parse "x - 1 + 2 * 3".toList).toOption.map (fun tree =>
        (decide (tree.All (engine.rearranges · = false)), decide (Candid (some document) tree),
          (tree.outcome (some document)).toOption)) =
        some (true, true, some (.long ⟨6, by decide, by decide⟩)) := by decide +kernel
    obtain ⟨tree, read, checks⟩ := Option.map_eq_some_iff.mp checks
    simp only [Prod.mk.injEq, decide_eq_true_eq, Except.toOption_eq_some_iff] at checks
    obtain ⟨still, candid, success⟩ := checks
    have read := Except.toOption_eq_some_iff.mp read
    exact ⟨tree, read, (reduce_succeeds constants read).1 still candid _ success⟩
  · have checks : (engine.parse "x * 2 * x * 3 + 4 - x".toList).toOption.map (fun tree =>
        (decide (tree.All (isIntegral · = true)),
          tree.inputs.all fun item => (item.outcome (some document)).toOption == some (.long 1),
          (tree.outcome (some document)).toOption,
          ((engine.reduce tree).outcome (some document)).toOption.isSome)) =
        some (true, true, some (.long ⟨9, by decide, by decide⟩), true) := by decide +kernel
    obtain ⟨tree, read, checks⟩ := Option.map_eq_some_iff.mp checks
    simp only [Prod.mk.injEq, decide_eq_true_eq, List.all_eq_true, beq_iff_eq,
      Except.toOption_eq_some_iff] at checks
    obtain ⟨integral, bound, success, evaluates⟩ := checks
    have read := Except.toOption_eq_some_iff.mp read
    refine ⟨tree, read, ((reduce_succeeds constants read).2 integral
      (fun item member => ⟨_, bound item member⟩) _ success).resolve_right fun overflow => ?_⟩
    rw [overflow] at evaluates
    cases evaluates

/-- Constants that are collected overflow together with a variable, before another variable has taken away
from it. -/
theorem exists_overflow :
    let engine := ((standard 0 ⟨Date.epoch, Time.midnight⟩).addVariable "x" ⟨40, "/x", .long⟩).addVariable "y"
      ⟨41, "/y", .long⟩
    let document := some (Json.object [("x", .integer 1), ("y", .integer (-1))])
    ∃ tree, engine.parse "x + 9223372036854775806 + y + 1".toList = .ok tree ∧
      tree.outcome document = .ok (.long ⟨9223372036854775807, by decide, by decide⟩) ∧
      ((engine.reduce tree).outcome document).toOption = none := by
  intro engine document
  have checks : (engine.parse "x + 9223372036854775806 + y + 1".toList).toOption.map (fun tree =>
      ((tree.outcome document).toOption, ((engine.reduce tree).outcome document).toOption)) =
      some (some (.long ⟨9223372036854775807, by decide, by decide⟩), none) := by decide +kernel
  obtain ⟨tree, read, checks⟩ := Option.map_eq_some_iff.mp checks
  obtain ⟨success, fails⟩ := Prod.mk.inj checks
  exact ⟨tree, Except.toOption_eq_some_iff.mp read, Except.toOption_eq_some_iff.mp success, fails⟩

end Engine

end Reckoner
