import Reckoner.Proofs.Folding.Covering
import Reckoner.Proofs.Folding.Formed

/-! # Folding comes to an end

What a rule makes of its operands the same rule leaves alone. A sum has one constant term left, a product
of longs one constant factor in front, and no two neighbours of a concatenation are constant any more. A
difference is not covered, since it becomes a sum, nor is a product of doubles, whose constant factors may
round to a zero that only a second folding finds.
-/

namespace Reckoner

open Reckoner.Tree

/-- The part is one of the operands or a literal. -/
def Tree.Remains (operands : List Tree) (part : Tree) : Prop :=
  part ∈ operands ∨ ∃ kind value, part = .literal kind value

/-- What is folded consists of operands and literals, and operands are folded no further. -/
def Folded.Final (fold? : List Tree → Option Folded) (operands : List Tree) : Folded → Prop
  | .tree result => result.Remains operands
  | .operands parts => (∀ part ∈ parts, part.Remains operands) ∧ fold? parts = none

variable {operands : List Tree} {folded : Folded}

theorem Folded.final_literal {fold? : List Tree → Option Folded} (kind : Kind) (value : Value) :
    (literal kind value).Final fold? operands :=
  .inr ⟨kind, value, rfl⟩

/-- A literal has its value whatever the document. -/
theorem literalValue?_literal (kind : Kind) (value : Value) : (Tree.literal kind value).literalValue? = some value :=
  literalValue?_eq_some_iff.mpr ⟨by rw [isConstant], by rw [outcome]⟩

/-- A folded constant is folded no further. -/
theorem Folded.final_of_foldConstant? {fold? : List Tree → Option Folded} {kind : Kind}
    {apply : List Operand → Except EvalError Value} (fold : foldConstant? kind apply operands = some folded) :
    folded.Final fold? operands := by
  obtain ⟨_, value, _, rfl⟩ := foldConstant?_eq_some_iff.mp fold
  exact final_literal kind value

section Arithmetic

/-- Sums and products with an unknown operand are not folded to their value. -/
theorem foldConstant?_of_unknown {kind : Kind} {compute : List Operand → List Value → Except EvalError Value}
    (unknown : ∃ operand ∈ operands, operand.literalValue? = none) :
    foldConstant? kind (fun operands => Operand.unlessNull operands (compute operands)) operands = none := by
  rw [Option.eq_none_iff_forall_ne_some]
  intro folded fold
  obtain ⟨constant, _, success, _⟩ := foldConstant?_eq_some_iff.mp fold
  obtain ⟨_, evaluated, _⟩ := Except.bind_eq_ok_iff.mp success
  obtain ⟨operand, member, none⟩ := unknown
  have evaluates := Operand.all_isKnown_of_values evaluated
  rw [known, operandsFor_eq_map, List.all_map, List.all_eq_true] at evaluates
  obtain ⟨value, here⟩ := Operand.exists_of_isKnown (evaluates operand member)
  rw [literalValue?_eq_some_iff.mpr ⟨areConstant_iff.mp constant operand member, here⟩] at none
  cases none

theorem filterMap_filter_isNone (operands : List Tree) :
    (operands.filter fun operand => operand.literalValue?.isNone).filterMap literalValue? = [] :=
  List.filterMap_eq_nil_iff.mpr fun _ member => Option.isNone_iff_eq_none.mp (List.mem_filter.mp member).2

/-- The known operands are counted by their values. -/
theorem knownCount_eq_length (operands : List Tree) :
    knownCount operands = (operands.filterMap literalValue?).length := by
  rw [knownCount, ← List.countP_eq_length_filter, List.length_filterMap_eq_countP]

/-- Folding a sum leads to a literal or collects its constant terms, and some other term is unknown. -/
theorem exists_term_of_foldAddition? (fold : foldAddition? operands = some folded) :
    (∃ kind value, folded = .literal kind value) ∨
      ∃ kind term, Value.sum kind (operands.filterMap literalValue?) = .ok term ∧
        (operands.filter fun operand => operand.literalValue?.isSome) ≠ [] ∧
        (∃ operand ∈ operands, operand.literalValue? = none) ∧
        folded = .operands (collectAt (.literal kind term) operands) := by
  rcases Option.or_eq_some_iff.mp fold with constant | ⟨unfolded, fold⟩
  · obtain ⟨_, value, _, rfl⟩ := foldConstant?_eq_some_iff.mp constant
    exact .inl ⟨_, value, rfl⟩
  dsimp only at fold
  split at fold
  · exact .inl ⟨_, _, (Option.some.inj fold).symm⟩
  next mixed =>
  split at fold
  · cases fold
  next several =>
  obtain ⟨term, success, rfl⟩ := Option.map_eq_some_iff.mp fold
  have success := Except.toOption_eq_some_iff.mp success
  refine .inr ⟨_, term, success, fun none => several (by rw [none]; exact Nat.zero_lt_two), ?_, rfl⟩
  refine exists_unknown Value.sum unfolded (fun all => ?_) success
  refine Bool.eq_false_iff.mpr fun null => mixed (Bool.and_eq_true_iff.mpr ⟨?_, null⟩)
  exact List.all_eq_true.mpr fun operand member => by rw [all operand member, Bool.or_true]

theorem Value.isNull_sum {kind : Kind} {values : List Value} {term : Value} (success : sum kind values = .ok term) :
    term.isNull = false := by
  unfold sum at success
  split at success
  all_goals
    obtain ⟨_, _, rfl⟩ := Except.map_eq_ok_iff.mp success
    rfl

/-- A sum with an unknown term and one constant term that is not null is left alone. -/
theorem foldAddition?_of_single {term : Value} (unknown : ∃ operand ∈ operands, operand.literalValue? = none)
    (single : operands.filterMap literalValue? = [term]) (present : term.isNull = false) :
    foldAddition? operands = none := by
  have few : (operands.filter fun operand => operand.literalValue?.isSome).length < 2 := by
    rw [← knownCount, knownCount_eq_length, single]
    exact Nat.one_lt_two
  have whole : foldConstant? (Kind.promoted (kinds operands)) addOperands operands = none :=
    foldConstant?_of_unknown unknown
  rw [foldAddition?]
  dsimp only
  rw [whole, Option.none_or, single, List.any_cons, List.any_nil, present, Bool.or_false, Bool.and_false,
    if_neg Bool.false_ne_true, if_pos few]

/-- A folded addition is a sum of which nothing can be collected again. -/
theorem foldAddition?_final (fold : foldAddition? operands = some folded) :
    folded.Final foldAddition? operands := by
  rcases exists_term_of_foldAddition? fold with
    ⟨kind, value, rfl⟩ | ⟨kind, term, success, known, ⟨operand, member, none⟩, rfl⟩
  · exact Folded.final_literal kind value
  refine ⟨fun part member => ?_, foldAddition?_of_single ⟨operand, ?_, none⟩ ?_ (Value.isNull_sum success)⟩
  · rcases mem_collectAt.mp member with ⟨rfl, _⟩ | ⟨inside, _⟩
    · exact .inr ⟨kind, term, rfl⟩
    · exact .inl inside
  · exact mem_collectAt.mpr (.inr ⟨member, by rw [none, Option.isSome_none]⟩)
  · have front := ((collectAt_perm known).filterMap literalValue? : List.Perm _
      ((Tree.literal kind term :: _).filterMap literalValue?))
    rw [List.filterMap_cons_some (literalValue?_literal kind term), filterMap_filter_isNone] at front
    exact List.perm_singleton.mp front

/-- The constant factors of a product that does not vanish are neither null nor zero. -/
theorem isNothing_of_annihilator? {kind : Kind} (present : annihilator? kind operands = none) :
    ∀ value ∈ operands.filterMap literalValue?, value.isNothing = false := by
  intro value member
  have found := List.findSome?_eq_none_iff.mp present value member
  rw [Value.isNothing]
  cases zero : value.isZero with
  | true => rw [zero, if_pos rfl] at found; cases found
  | false =>
    cases null : value.isNull with
    | true => rw [zero, null, if_neg Bool.false_ne_true, if_pos rfl] at found; cases found
    | false => rfl

theorem Long.mul?_ne_zero {left right product : Long} (leftPresent : left.val ≠ 0) (rightPresent : right.val ≠ 0)
    (multiplied : left.mul? right = some product) : product.val ≠ 0 := by
  rw [Long.ofInt?_eq_some_iff.mp multiplied]
  exact Int.mul_ne_zero leftPresent rightPresent

/-- No partial product of longs that are not zero is zero. -/
theorem Value.combineLongs_ne_zero {values : List Value} {start total : Long}
    (present : ∀ value ∈ values, value.isNothing = false) (begun : start.val ≠ 0)
    (success : combineLongs Long.mul? start values = .ok total) : total.val ≠ 0 := by
  induction values generalizing start with
  | nil => exact Except.ok.inj success ▸ begun
  | cons value rest ih =>
    obtain ⟨here, others⟩ := List.forall_mem_cons.mp present
    cases value with
    | long n =>
      rw [combineLongs_cons] at success
      obtain ⟨next, multiplied, success⟩ := Except.bind_eq_ok_iff.mp success
      have nonzero : n.val ≠ 0 := ne_of_beq_false here
      exact ih others (Long.mul?_ne_zero begun nonzero (orOverflow_eq_ok_iff.mp multiplied)) success
    | null => cases here
    | _ => cases success

/-- A product of longs other than zero is a long other than zero. -/
theorem Value.exists_long_of_product {values : List Value} {factor : Value}
    (present : ∀ value ∈ values, value.isNothing = false) (success : product .long values = .ok factor) :
    ∃ n : Long, factor = .long n ∧ n.val ≠ 0 := by
  rw [product, if_pos rfl] at success
  obtain ⟨total, combined, rfl⟩ := Except.map_eq_ok_iff.mp success
  exact ⟨total, rfl, combineLongs_ne_zero present Int.one_ne_zero combined⟩

/-- Folding a product of longs leads to a literal or leaves the unknown factors, of which there are some, behind
a collected factor unless that is one. -/
theorem exists_factor_of_foldMultiplication? (long : Kind.promoted (kinds operands) = .long)
    (fold : foldMultiplication? operands = some folded) :
    (∃ kind value, folded = .literal kind value) ∨
      ∃ others, others = operands.filter (fun operand => operand.literalValue?.isNone) ∧ others ≠ [] ∧
        ((∃ n : Long, n.val ≠ 0 ∧ (Value.long n).isOne = false ∧
            folded = .operands (.literal .long (.long n) :: others)) ∨
          folded = .operands others ∨ ∃ single ∈ others, folded = .tree single) := by
  rcases Option.or_eq_some_iff.mp fold with constant | ⟨unfolded, fold⟩
  · obtain ⟨_, value, _, rfl⟩ := foldConstant?_eq_some_iff.mp constant
    exact .inl ⟨_, value, rfl⟩
  split at fold
  · exact .inl ⟨_, _, (Option.some.inj fold).symm⟩
  next present =>
  dsimp only at fold
  split at fold
  · cases fold
  obtain ⟨factor, success, fold⟩ := Option.bind_eq_some_iff.mp fold
  have success := Except.toOption_eq_some_iff.mp success
  have present := isNothing_of_annihilator? present
  have nonnull : (operands.filterMap literalValue?).any Value.isNull = false :=
    List.any_eq_false.mpr fun value member null => by
      have here := present value member
      rw [Value.isNothing, null] at here
      cases here
  obtain ⟨operand, member, none⟩ := exists_unknown Value.product unfolded (fun _ => nonnull) success
  have unknown : operand ∈ operands.filter fun operand => operand.literalValue?.isNone :=
    List.mem_filter.mpr ⟨member, by rw [none, Option.isNone_none]⟩
  refine .inr ⟨_, rfl, List.ne_nil_of_mem unknown, ?_⟩
  rw [promoted_of_subset long fun part member => (List.mem_filter.mp member).1] at success fold
  obtain ⟨n, rfl, nonzero⟩ := Value.exists_long_of_product present success
  split at fold
  · cases fold
  rw [show (Kind.long == Kind.double) = false from rfl, Bool.false_and, Bool.or_false] at fold
  cases one : (Value.long n).isOne with
  | true =>
    rw [one, Bool.not_true, if_neg Bool.false_ne_true] at fold
    split at fold
    · next single sole =>
      exact .inr (.inr ⟨single, sole ▸ List.mem_singleton_self single, (Option.some.inj fold).symm⟩)
    · exact .inr (.inl (Option.some.inj fold).symm)
  | false =>
    rw [one, Bool.not_false, if_pos rfl] at fold
    split at fold
    · next sole => exact absurd (List.cons.inj sole).2 (List.ne_nil_of_mem unknown)
    · exact .inl ⟨n, nonzero, one, (Option.some.inj fold).symm⟩

/-- Unknown factors alone are left alone. -/
theorem foldMultiplication?_of_unknown (present : operands ≠ [])
    (unknown : ∀ operand ∈ operands, operand.literalValue? = none) : foldMultiplication? operands = none := by
  obtain ⟨operand, member⟩ := List.exists_mem_of_ne_nil operands present
  have whole : foldConstant? (Kind.promoted (kinds operands)) multiplyOperands operands = none :=
    foldConstant?_of_unknown ⟨operand, member, unknown operand member⟩
  have nothing : operands.filter (fun operand => operand.literalValue?.isSome) = [] :=
    List.filter_eq_nil_iff.mpr fun operand member => by rw [unknown operand member]; exact Bool.false_ne_true
  rw [foldMultiplication?]
  dsimp only
  rw [whole, Option.none_or, annihilator?, List.filterMap_eq_nil_iff.mpr unknown, nothing]
  rfl

/-- A factor in front of unknown ones is left alone if it is a long other than zero and one. -/
theorem foldMultiplication?_of_front {n : Long} {others : List Tree} (nonzero : n.val ≠ 0)
    (other : (Value.long n).isOne = false) (present : others ≠ [])
    (unknown : ∀ operand ∈ others, operand.literalValue? = none) :
    foldMultiplication? (.literal .long (.long n) :: others) = none := by
  obtain ⟨operand, member⟩ := List.exists_mem_of_ne_nil others present
  have front := literalValue?_literal .long (.long n)
  have whole : foldConstant? (Kind.promoted (kinds (.literal .long (.long n) :: others))) multiplyOperands
      (.literal .long (.long n) :: others) = none :=
    foldConstant?_of_unknown ⟨operand, List.mem_cons_of_mem _ member, unknown operand member⟩
  have single : (Tree.literal .long (.long n) :: others).filter (fun operand => operand.literalValue?.isSome) =
      [.literal .long (.long n)] := by
    rw [List.filter_cons_of_pos (by rw [front]; rfl), List.filter_eq_nil_iff.mpr fun operand member => by
      rw [unknown operand member]; exact Bool.false_ne_true]
  have values : (Tree.literal .long (.long n) :: others).filterMap literalValue? = [.long n] := by
    rw [List.filterMap_cons_some front, List.filterMap_eq_nil_iff.mpr unknown]
  have alone : Value.product .long [.long n] = .ok (.long n) := by
    rw [Value.product, if_pos rfl, Value.combineLongs_cons, Long.one_mul?]
    rfl
  have kept : annihilator? (Kind.promoted (kinds (.literal .long (.long n) :: others)))
      (.literal .long (.long n) :: others) = none := by
    rw [annihilator?, values, List.findSome?_cons, show (Value.long n).isZero = false from beq_false_of_ne nonzero]
    rfl
  rw [foldMultiplication?]
  dsimp only
  rw [whole, Option.none_or, kept, single, values, List.isEmpty_cons,
    show Kind.promoted (kinds [.literal .long (.long n)]) = .long from rfl, alone, if_neg Bool.false_ne_true]
  have stays : (!(Value.long n).isOne) = true := by rw [other]; rfl
  exact if_pos (by rw [stays]; rfl)

/-- A folded multiplication of longs is a product of which nothing can be collected again. -/
theorem foldMultiplication?_final (long : Kind.promoted (kinds operands) = .long)
    (fold : foldMultiplication? operands = some folded) : folded.Final foldMultiplication? operands := by
  rcases exists_factor_of_foldMultiplication? long fold with ⟨kind, value, rfl⟩ | ⟨others, same, present, shape⟩
  · exact Folded.final_literal kind value
  have left : ∀ part ∈ others, part ∈ operands ∧ part.literalValue?.isNone = true := fun part member => by
    rwa [same, List.mem_filter] at member
  have remain : ∀ part ∈ others, part.Remains operands := fun part member => .inl (left part member).1
  have unknown : ∀ part ∈ others, part.literalValue? = none := fun part member =>
    Option.isNone_iff_eq_none.mp (left part member).2
  rcases shape with ⟨n, nonzero, other, rfl⟩ | rfl | ⟨single, member, rfl⟩
  · exact ⟨List.forall_mem_cons.mpr ⟨.inr ⟨_, _, rfl⟩, remain⟩,
      foldMultiplication?_of_front nonzero other present unknown⟩
  · exact ⟨remain, foldMultiplication?_of_unknown present unknown⟩
  · exact remain single member

end Arithmetic

section Texts

/-- A joined run is joined with what follows it as the run itself would be. -/
theorem joinRuns?_joinedRun (run : Option String) (rest : List Tree) :
    joinRuns? none (joinedRun run ++ rest) = joinRuns? run rest := by
  cases run with
  | none => rfl
  | some text =>
    rw [joinedRun, List.singleton_append, joinRuns?, ofValue, literalValue?_literal]
    dsimp only
    rw [Value.asText_string]
    dsimp only
    rw [Option.getD_none, String.empty_append]

/-- Joined texts have no constant neighbours, so that joining them again changes nothing. -/
theorem joinRuns?_joined {run : Option String} {joined : List Tree}
    (join : joinRuns? run operands = some (some joined)) : joinRuns? none joined = some (some joined) := by
  induction operands generalizing run joined with
  | nil =>
    obtain rfl := Option.some.inj (Option.some.inj join)
    rw [← List.append_nil (joinedRun run), joinRuns?_joinedRun, joinRuns?, List.append_nil]
  | cons operand rest ih =>
    rw [joinRuns?] at join
    split at join
    · split at join
      · exact ih join
      · cases Option.some.inj join
      · cases join
    · next unknown =>
      obtain ⟨others?, later, join⟩ := Option.map_eq_some_iff.mp join
      obtain ⟨others, rfl, rfl⟩ := Option.map_eq_some_iff.mp join
      rw [joinRuns?_joinedRun, joinRuns?, unknown]
      dsimp only
      rw [ih later, Option.map_some, Option.map_some]

/-- Joining leaves operands as they are, or makes literals of them. -/
theorem remains_of_joinRuns {run : Option String} {joined : List Tree}
    (join : joinRuns? run operands = some (some joined)) : ∀ part ∈ joined, part.Remains operands := by
  have runs (run : Option String) : ∀ part ∈ joinedRun run, ∃ kind value, part = .literal kind value := by
    cases run with
    | none => exact List.forall_mem_nil _
    | some text => exact List.forall_mem_singleton.mpr ⟨_, _, rfl⟩
  induction operands generalizing run joined with
  | nil =>
    obtain rfl := Option.some.inj (Option.some.inj join)
    exact fun part member => .inr (runs run part member)
  | cons operand rest ih =>
    rcases joinRuns?_cons join with ⟨_, _, _, _, join⟩ | ⟨others, later, rfl⟩
    · exact fun part member => (ih join part member).imp_left (List.mem_cons_of_mem operand)
    · refine List.forall_mem_append.mpr ⟨fun part member => .inr (runs run part member), ?_⟩
      refine List.forall_mem_cons.mpr ⟨.inl (List.mem_cons_self ..), fun part member => ?_⟩
      exact (ih later part member).imp_left (List.mem_cons_of_mem operand)

/-- A folded concatenation has no neighbouring constants left to join. -/
theorem foldConcatenation?_final (fold : foldConcatenation? operands = some folded) :
    folded.Final foldConcatenation? operands := by
  rw [foldConcatenation?] at fold
  split at fold
  · cases fold
  · obtain rfl := Option.some.inj fold
    exact Folded.final_literal _ _
  · next joined join =>
    have remains := remains_of_joinRuns join
    split at fold
    · cases fold
    · split at fold
      · obtain rfl := Option.some.inj fold
        exact remains _ (List.mem_singleton_self _)
      · obtain rfl := Option.some.inj fold
        refine ⟨remains, ?_⟩
        rw [foldConcatenation?, joinRuns?_joined join]
        exact if_pos rfl

end Texts

/-- A connective is folded to a literal. -/
theorem foldConnective?_final {dominant : Bool} (fold : foldConnective? dominant operands = some folded) :
    folded.Final (foldConnective? dominant) operands := by
  rcases Option.or_eq_some_iff.mp fold with constant | ⟨_, fold⟩
  · exact Folded.final_of_foldConstant? constant
  · split at fold
    · obtain rfl := Option.some.inj fold
      exact Folded.final_literal _ _
    · cases fold

/-- Every rule of an operator ends with what it makes, but for quotients, for products of doubles and for
differences, which become sums. -/
theorem OperatorKind.fold?_final {operator : OperatorKind}
    (sums : ∀ addition negation, operator ≠ .subtraction addition negation)
    (whole : ∀ multiplication, operator ≠ .division multiplication)
    (long : operator = .multiplication → Kind.promoted (kinds operands) = .long)
    (fold : operator.fold? operands = some folded) : folded.Final operator.fold? operands := by
  cases operator with
  | or | and => exact foldConnective?_final fold
  | addition => exact foldAddition?_final fold
  | concatenation => exact foldConcatenation?_final fold
  | subtraction addition negation => exact absurd rfl (sums addition negation)
  | multiplication => exact foldMultiplication?_final (long rfl) fold
  | division multiplication => exact absurd rfl (whole multiplication)
  | not | comparison _ | square | negation => exact Folded.final_of_foldConstant? fold

/-- A function is folded to one of its operands or to a literal, of the kind that it is declared to have. -/
theorem FunctionKind.exists_of_fold? {function : FunctionKind} (fold : function.fold? operands = some folded) :
    ∃ result, folded = .tree result ∧ result.kind = function.resultKind (kinds operands) ∧
      result.Remains operands := by
  have literal (kind : Kind) (value : Value) : ∃ result, Folded.literal kind value = .tree result ∧
      result.kind = kind ∧ result.Remains operands :=
    ⟨_, rfl, by rw [Tree.kind], .inr ⟨kind, value, rfl⟩⟩
  have constants {kind : Kind} {apply : List Operand → Except EvalError Value}
      (fold : foldConstant? kind apply operands = some folded) :
      ∃ result, folded = .tree result ∧ result.kind = kind ∧ result.Remains operands := by
    obtain ⟨_, value, _, rfl⟩ := foldConstant?_eq_some_iff.mp fold
    exact literal kind value
  cases function with
  | conditional =>
    obtain ⟨_, left, right, others, _, _, branch, rfl, _, _, _, part, shape⟩ :=
      exists_branch_of_foldConditional? fold
    rcases shape with ⟨same, rfl⟩ | ⟨value, result, _, _, rfl⟩
    · exact ⟨branch, rfl, same, .inl part⟩
    · exact literal _ result
  | noNull =>
    obtain ⟨value, rfl, _⟩ := firstValue_of_foldFirstValue? none fold
    exact literal _ value
  | isNull | noZero | hexadecimal | squareRoot | kindName =>
    rw [fold?] at fold
    unfold foldLiteral? at fold
    split at fold
    · exact constants fold
    · cases fold
  | absolute | round | least | greatest | length | upper | lower => exact constants fold
  | evaluates | now _ => cases fold

end Reckoner
