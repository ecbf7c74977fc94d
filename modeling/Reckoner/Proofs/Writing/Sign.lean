import Reckoner.Proofs.Writing.RoundTrip

/-! # Numbers with a sign

A number below zero is written with a sign in front, which is read as a negation. The expression with
negations in place of such numbers, in a block where it is an operand, is written in the same way as the
expression itself and has the same outcomes, and it is what comes out of reading.
-/

namespace Reckoner

namespace Double

/-- Flipping the sign bit changes the sign and nothing else. -/
theorem neg_spec (x : Double) : x.neg.magnitude = x.magnitude ∧ x.neg.isNegative = !x.isNegative := by
  have bits : x.neg.bits.toNat = x.bits.toNat ^^^ 2 ^ 63 := UInt64.toNat_xor ..
  have bound : x.bits.toNat < 2 ^ 64 := x.bits.toNat_lt
  constructor
  · rw [magnitude, magnitude, bits, show 9223372036854775808 = 2 ^ 63 from rfl, Nat.xor_mod_two_pow,
      Nat.mod_self, Nat.xor_zero]
  · have top : (x.bits.toNat ^^^ 2 ^ 63) / 2 ^ 63 = x.bits.toNat / 2 ^ 63 ^^^ 1 := by
      rw [Nat.xor_div_two_pow, Nat.div_self (by decide)]
    have high (n : Nat) (small : n < 2 ^ 64) : decide (9223372036854775808 ≤ n) = decide (n / 2 ^ 63 = 1) := by
      rw [decide_eq_decide]
      omega
    have boundToo : x.bits.toNat ^^^ 2 ^ 63 < 2 ^ 64 := Nat.xor_lt_two_pow bound (by decide)
    rw [isNegative, isNegative, bits, high _ boundToo, high _ bound, top]
    have cases : x.bits.toNat / 2 ^ 63 = 0 ∨ x.bits.toNat / 2 ^ 63 = 1 := by omega
    rcases cases with zero | one
    · rw [zero]; rfl
    · rw [one]; rfl

/-- The digits of a double depend on its size only. -/
theorem shortest_congr {x y : Double} (same : x.magnitude = y.magnitude) (tie : Tie) :
    x.shortest tie = y.shortest tie := by
  have significand : x.significand = y.significand := by rw [Double.significand, Double.significand, same]
  have exponent : x.exponent = y.exponent := by rw [Double.exponent, Double.exponent, same]
  have narrow : x.narrowBelow = y.narrowBelow := by rw [narrowBelow, narrowBelow, same]
  have back : x.readsBack = y.readsBack := by
    funext decimal
    rw [readsBack, readsBack, significand, exponent, narrow]
  have floor : x.floorOnGrid = y.floorOnGrid := by
    funext place
    rw [floorOnGrid, floorOnGrid, significand, exponent]
  have grid : x.onGrid? tie = y.onGrid? tie := by
    funext place
    unfold onGrid?
    rw [back, floor, significand, exponent]
  have scale : x.decimalScale = y.decimalScale := by
    rw [decimalScale, decimalScale, significand, exponent]
  have exact : x.exactDecimal = y.exactDecimal := by
    rw [exactDecimal, exactDecimal, significand, exponent]
  rw [shortest, shortest, isZero, isZero, same, grid, scale, exact]

/-- The opposite of the opposite is the double itself. -/
theorem neg_neg (x : Double) : x.neg.neg = x := by
  rw [neg, neg, UInt64.xor_assoc, UInt64.xor_self, UInt64.xor_zero]

end Double

/-- The opposite of a number that is written with a sign in front. The least long has none. -/
def Value.opposite? : Value → Option Value
  | .long n => if n.val < 0 then n.neg?.map .long else none
  | .double x => if x.isNegative && !x.isNaN then some (.double x.neg) else none
  | _ => none

theorem Value.numeric_of_opposite? {value opposite : Value} (shown : value.opposite? = some opposite) :
    value.hasSignedYear = false ∧ opposite.hasSignedYear = false ∧
      (opposite.kind = .long ∨ opposite.kind = .double) := by
  cases value with
  | long n =>
    rw [opposite?] at shown
    split at shown
    · obtain ⟨_, _, rfl⟩ := Option.map_eq_some_iff.mp shown
      exact ⟨rfl, rfl, .inl rfl⟩
    · cases shown
  | double x =>
    rw [opposite?] at shown
    split at shown
    · obtain rfl := Option.some.inj shown
      exact ⟨rfl, rfl, .inr rfl⟩
    · cases shown
  | _ => cases shown

namespace Tree

/-- The expression is a number that is written with a sign. -/
def hasSign : Tree → Bool
  | literal _ value => value.opposite?.isSome
  | _ => false

mutual

/-- The expression with `negation` in place of the numbers that are written with a sign. -/
def signed (negation : Operator) : Tree → Tree
  | literal _ value => match value.opposite? with
    | some opposite => operation negation [literal opposite.kind opposite]
    | none => literal value.kind value
  | constant item => constant item
  | input item => input item
  | operation operator operands => operation operator (signedOperands negation operands)
  | call function operands => call function (signedAll negation operands)
  | block inner => block (signed negation inner)

/-- Operands with `negation` in place of the numbers that are written with a sign, in blocks. -/
def signedOperands (negation : Operator) : List Tree → List Tree
  | [] => []
  | operand :: rest =>
    (if operand.hasSign then block (signed negation operand) else signed negation operand) ::
      signedOperands negation rest

/-- Several expressions with `negation` in place of the numbers that are written with a sign. -/
def signedAll (negation : Operator) : List Tree → List Tree
  | [] => []
  | tree :: rest => signed negation tree :: signedAll negation rest

end

/-- An operand with `negation` in place of a number that is written with a sign, in a block. -/
def signedOperand (negation : Operator) (operand : Tree) : Tree :=
  if operand.hasSign then block (signed negation operand) else signed negation operand

theorem signedOperands_eq_map (negation : Operator) (operands : List Tree) :
    signedOperands negation operands = operands.map (signedOperand negation) := by
  induction operands with
  | nil => rfl
  | cons operand rest ih => rw [signedOperands, List.map_cons, ih, signedOperand]

theorem signedAll_eq_map (negation : Operator) (trees : List Tree) :
    signedAll negation trees = trees.map (signed negation) := by
  induction trees with
  | nil => rfl
  | cons tree rest ih => rw [signedAll, List.map_cons, ih]

/-- An operand under its sign is alike to the operand. -/
theorem signedOperand_alike {negation : Operator} {operand : Tree}
    (here : Alike (signed negation operand) operand) : Alike (signedOperand negation operand) operand := by
  rw [signedOperand]
  split
  · exact (alike_block _).trans here
  · exact here

/-- A number with a sign is the negation of its opposite. -/
theorem signed_literal_alike (negation : Tag) (value : Value) :
    Alike (signed ⟨negation, .negation⟩ (.literal value.kind value)) (.literal value.kind value) := by
  cases shown : value.opposite? with
  | none =>
    simp only [signed, shown]
    exact .refl _
  | some opposite =>
    simp only [signed, shown]
    cases value with
    | long n =>
      rw [Value.opposite?] at shown
      split at shown
      · obtain ⟨m, opposite, rfl⟩ := Option.map_eq_some_iff.mp shown
        have back : m.neg? = some n := by
          have negated := Long.ofInt?_eq_some_iff.mp opposite
          exact Long.ofInt?_eq_some_iff.mpr (by rw [negated, Int.neg_neg])
        refine ⟨rfl, fun document => ?_, rfl⟩
        simp only [outcome, operandsFor, OperatorKind.apply]
        show (Long.orOverflow m.neg?).map Value.long = _
        rw [back]
        rfl
      · cases shown
    | double x =>
      rw [Value.opposite?] at shown
      split at shown
      · obtain rfl := Option.some.inj shown
        refine ⟨rfl, fun document => ?_, rfl⟩
        simp only [outcome, operandsFor, OperatorKind.apply]
        show Except.ok (Value.double x.neg.neg) = _
        rw [Double.neg_neg]
      · cases shown
    | _ => cases shown

/-- An expression with negations in place of numbers with a sign has the same outcomes. -/
theorem signed_alike (negation : Tag) {tree : Tree}
    (exact : ∀ kind value, Within (.literal kind value) tree → kind = value.kind) :
    Alike (signed ⟨negation, .negation⟩ tree) tree := by
  induction tree with
  | literal kind value =>
    obtain rfl := exact kind value .self
    exact signed_literal_alike negation value
  | constant | input => exact .refl _
  | operation operator operands ih =>
    rw [signed, signedOperands_eq_map]
    refine alike_operation (forall₂_map_self fun operand member => ?_)
    exact signedOperand_alike
      (ih operand member fun kind value within => exact kind value (within.trans (.operand member)))
  | call function operands ih =>
    rw [signed, signedAll_eq_map]
    exact alike_call (forall₂_map_self fun operand member =>
      ih operand member fun kind value within => exact kind value (within.trans (.argument member)))
  | block inner ih =>
    rw [signed]
    have here := ih fun kind value within => exact kind value (within.trans .inside)
    exact (alike_block _).trans (here.trans (alike_block _).symm)

end Tree

/-- In place of an operand stands one that binds as tight. -/
theorem Tree.level_signedOperand (negation : Operator) (operand : Tree) :
    (operand.signedOperand negation).level = operand.level := by
  rw [Tree.signedOperand]
  split
  · next negative =>
    cases operand with
    | literal kind value =>
      obtain ⟨opposite, shown⟩ := Option.isSome_iff_exists.mp negative
      exact (Tree.level_literal (Value.numeric_of_opposite? shown).1).symm
    | _ => exact absurd negative Bool.false_ne_true
  · next unsigned =>
    cases operand with
    | literal kind value =>
      have shown : value.opposite? = none := Option.not_isSome_iff_eq_none.mp unsigned
      simp only [Tree.signed, shown, Tree.level]
    | _ => simp only [Tree.signed, Tree.level]

namespace Engine

variable {engine : Engine} {base : Tag}

/-- What is written for the value is read as the value. -/
def Says (engine : Engine) (value : Value) : Prop :=
  ∃ text, engine.format (.literal value.kind value) = .ok text ∧
    engine.Writes (.literal value.kind value) text

/-- What is written for the value, or for its opposite behind a sign, is read as that value. -/
def SaysSigned (engine : Engine) (value : Value) : Prop :=
  match value.opposite? with
  | some opposite => engine.Says opposite
  | none => engine.Says value

/-- The text of a number with a sign is that of its opposite behind the sign. -/
theorem valueText_of_opposite? {value opposite : Value} (shown : value.opposite? = some opposite) :
    ∃ text, Dialect.standard.valueText opposite = .ok text ∧
      Dialect.standard.valueText value = .ok ('-' :: text) := by
  cases value with
  | long n =>
    rw [Value.opposite?] at shown
    split at shown
    · next negative =>
      obtain ⟨m, opposite, rfl⟩ := Option.map_eq_some_iff.mp shown
      have negated : m.val = -n.val := Long.ofInt?_eq_some_iff.mp opposite
      refine ⟨m.numeral 10, rfl, ?_⟩
      have digits : n.numeral 10 = '-' :: m.numeral 10 := by
        rw [Long.numeral, Long.numeral, Numeral.ofInt, Numeral.ofInt, if_pos negative,
          if_neg (by omega), negated, Int.natAbs_neg]
      exact congrArg _ digits
    · cases shown
  | double x =>
    rw [Value.opposite?] at shown
    split at shown
    · next here =>
      obtain rfl := Option.some.inj shown
      rw [Bool.and_eq_true, Bool.not_eq_true'] at here
      obtain ⟨negative, number⟩ := here
      obtain ⟨magnitude, sign⟩ := x.neg_spec
      refine ⟨x.neg.literalText, rfl, ?_⟩
      have digits : x.literalText = '-' :: x.neg.literalText := by
        have size := Double.shortest_congr magnitude .upward
        have tie : EvalError.plainLayout.tie = .upward := rfl
        have special : x.neg.isNaN = x.isNaN ∧ x.neg.isInfinite = x.isInfinite ∧
            x.neg.isFinite = x.isFinite := by
          simp only [Double.isNaN, Double.isInfinite, Double.isFinite, magnitude, and_self]
        obtain ⟨nan, infinite, finite⟩ := special
        have text : EvalError.plainLayout.text x = '-' :: EvalError.plainLayout.text x.neg := by
          rw [Layout.text, Layout.text, nan, infinite, sign, number, negative, tie, size]
          rfl
        have point (text : List Char) : ('-' :: text).contains '.' = text.contains '.' := by
          rw [List.contains_cons]
          rfl
        rw [Double.literalText, Double.literalText, text, finite, point]
        split <;> rfl
      exact congrArg _ digits
    · cases shown
  | _ => cases shown

/-- Operands that are written in the same way one by one are written in the same way together. -/
theorem formatOperands_map {isOneOfMany : Bool} {change : Tree → Tree} {operands : List Tree}
    (each : ∀ operand ∈ operands,
      (engine.format (change operand)).map (engine.operandText isOneOfMany (change operand)) =
        (engine.format operand).map (engine.operandText isOneOfMany operand)) :
    engine.formatOperands isOneOfMany (operands.map change) =
      engine.formatOperands isOneOfMany operands := by
  have step (operand : Tree) (rest : List Tree) : engine.formatOperands isOneOfMany (operand :: rest) =
      ((engine.format operand).map (engine.operandText isOneOfMany operand)).bind fun text =>
        (engine.formatOperands isOneOfMany rest).map (text :: ·) := by
    rw [formatOperands]
    cases engine.format operand with
    | error _ => rfl
    | ok _ => cases engine.formatOperands isOneOfMany rest <;> rfl
  induction operands with
  | nil => rfl
  | cons operand rest ih =>
    obtain ⟨here, others⟩ := List.forall_mem_cons.mp each
    rw [List.map_cons, step, step, here, ih others]

/-- Expressions that are written in the same way one by one are written in the same way together. -/
theorem formatAll_map {change : Tree → Tree} {operands : List Tree}
    (each : ∀ operand ∈ operands, engine.format (change operand) = engine.format operand) :
    engine.formatAll (operands.map change) = engine.formatAll operands := by
  induction operands with
  | nil => rfl
  | cons operand rest ih =>
    obtain ⟨here, others⟩ := List.forall_mem_cons.mp each
    rw [List.map_cons, formatAll, formatAll, here, ih others]

/-- The expression can be written and read back once numbers with a sign are negations, as far as it
can be told without looking into its operands. -/
def Signable (engine : Engine) (base : Tag) : Tree → Prop
  | .literal kind value => kind = value.kind ∧ engine.SaysSigned value
  | tree => engine.Regular base tree

/-- The negation binds a number without a sign. -/
theorem binds_negation {value opposite : Value} (shown : value.opposite? = some opposite) :
    Binds base ⟨"-", Library.negationTag base, .negation⟩ [.literal opposite.kind opposite] := by
  obtain ⟨_, number, kinds⟩ := Value.numeric_of_opposite? shown
  have level : (Tree.literal opposite.kind opposite).level = 16 := Tree.level_literal number
  refine ⟨?_, fun ten => absurd (show 15 = 10 from ten) (by decide), List.forall_mem_singleton.mpr (.inl ?_),
    fun _ _ nine => absurd (show 15 = 9 from nine) (by decide)⟩
  · rcases kinds with long | double
    · rw [long]; rfl
    · rw [double]; rfl
  · rw [level]
    exact Nat.lt_succ_self 15

/-- Operands with negations in place of numbers with a sign are bound like the original ones. -/
theorem Signable.regular_operation {operator : Operator} {operands : List Tree}
    (signable : ∀ part, Tree.Within part (.operation operator operands) → engine.Signable base part) :
    engine.Regular base (.operation operator
      (operands.map (Tree.signedOperand ⟨Library.negationTag base, .negation⟩))) := by
  obtain ⟨entry, registered, same, binds⟩ := signable _ .self
  have alike : List.Forall₂ Tree.Alike (operands.map
      (Tree.signedOperand ⟨Library.negationTag base, .negation⟩)) operands :=
    forall₂_map_self fun operand member => Tree.signedOperand_alike (Tree.signed_alike _ fun kind value
      within => (signable _ (within.trans (.operand member))).1)
  refine ⟨entry, registered, same, (Operator.accepts_of_alike alike).trans binds.accepted,
    fun ten other present nine => (Operator.accepts_of_alike alike).trans
      (binds.unadded ten other present nine), ?_, ?_⟩
  · rw [List.forall_mem_map]
    intro operand member
    rw [Tree.level_signedOperand]
    exact binds.deeper operand member
  · rw [List.forall_mem_map]
    intro operand member
    rw [Tree.level_signedOperand]
    exact binds.apart operand member

/-- A function accepts operands with negations in place of numbers with a sign. -/
theorem Signable.regular_call {function : Function} {operands : List Tree}
    (signable : ∀ part, Tree.Within part (.call function operands) → engine.Signable base part) :
    engine.Regular base (.call function
      (operands.map (Tree.signed ⟨Library.negationTag base, .negation⟩))) := by
  obtain ⟨named, accepted⟩ := signable _ .self
  have alike : List.Forall₂ Tree.Alike (operands.map
      (Tree.signed ⟨Library.negationTag base, .negation⟩)) operands :=
    forall₂_map_self fun operand member => Tree.signed_alike _ fun kind value within =>
      (signable _ (within.trans (.argument member))).1
  exact ⟨named, (Function.accepts_of_alike alike).trans accepted⟩

/-- A value stays as it is, or a negation of its opposite takes its place. -/
theorem SaysSigned.regular {value : Value} (sayable : engine.SaysSigned value) :
    ∀ part, Tree.Within part ((Tree.literal value.kind value).signed ⟨Library.negationTag base, .negation⟩) →
      engine.Regular base part := by
  intro part within
  cases shown : value.opposite? with
  | none =>
    rw [SaysSigned, shown] at sayable
    simp only [Tree.signed, shown] at within
    obtain rfl := List.mem_singleton.mp within.mem_parts
    exact sayable
  | some opposite =>
    rw [SaysSigned, shown] at sayable
    simp only [Tree.signed, shown] at within
    rcases List.mem_pair.mp within.mem_parts with rfl | rfl
    · exact ⟨_, Library.mem_negation base, rfl, binds_negation shown⟩
    · exact sayable

/-- With negations in place of numbers with a sign all parts are regular. -/
theorem regular_signed {tree : Tree} (signable : ∀ part, Tree.Within part tree → engine.Signable base part) :
    ∀ part, Tree.Within part (tree.signed ⟨Library.negationTag base, .negation⟩) →
      engine.Regular base part := by
  intro part within
  induction tree with
  | literal kind value =>
    obtain ⟨rfl, sayable⟩ := signable _ .self
    exact sayable.regular part within
  | constant | input =>
    rw [Tree.signed] at within
    obtain rfl := List.mem_singleton.mp within.mem_parts
    exact signable _ .self
  | operation operator operands ih =>
    rw [Tree.signed, Tree.signedOperands_eq_map] at within
    cases within with
    | self => exact Signable.regular_operation signable
    | child present within =>
      obtain ⟨operand, member, rfl⟩ := List.mem_map.mp present
      have here := ih operand member fun part within => signable part (within.trans (.operand member))
      rw [Tree.signedOperand] at within
      split at within
      · cases within with
        | self => exact trivial
        | child present within =>
          obtain rfl := List.mem_singleton.mp present
          exact here within
      · exact here within
  | call function operands ih =>
    rw [Tree.signed, Tree.signedAll_eq_map] at within
    cases within with
    | self => exact Signable.regular_call signable
    | child present within =>
      obtain ⟨operand, member, rfl⟩ := List.mem_map.mp present
      exact ih operand member (fun part within => signable part (within.trans (.argument member))) within
  | block inner ih =>
    rw [Tree.signed] at within
    cases within with
    | self => exact trivial
    | child member within =>
      obtain rfl := List.mem_singleton.mp member
      exact ih (fun part within => signable part (within.trans .inside)) within

namespace Legible

variable (legible : engine.Legible base)

include legible

/-- The text of a number without a sign does not begin with a token. -/
theorem beginsWithToken_of_opposite? {value opposite : Value} {text : List Char}
    (shown : value.opposite? = some opposite) (spoken : engine.Says opposite)
    (written : Dialect.standard.valueText opposite = .ok text) :
    engine.beginsWithToken text = false := by
  obtain ⟨same, formatted, writes⟩ := spoken
  rw [format, legible.dialect, Dialect.literalText_kind, written] at formatted
  obtain rfl := Except.ok.inj formatted
  have number := (Value.numeric_of_opposite? shown).2.1
  have solid := writes.solid (Tree.level_literal number)
  refine Bool.eq_false_iff.mpr fun begins => ?_
  rcases legible.toOrdinary.beginsWithToken_iff.mp begins with negated | signed
  · exact solid.head?_ne (by decide) negated
  · exact solid.head?_ne (by decide) signed

/-- A number with a sign is written as the negation of its opposite is. -/
theorem format_of_opposite? {value opposite : Value} (shown : value.opposite? = some opposite)
    (spoken : engine.Says opposite) : ∃ text,
      engine.format (.literal value.kind value) = .ok ('-' :: text) ∧
      engine.format (.operation ⟨Library.negationTag base, .negation⟩
        [.literal opposite.kind opposite]) = .ok ('-' :: text) := by
  have ordinary := legible.toOrdinary
  obtain ⟨text, written, writtenToo⟩ := valueText_of_opposite? shown
  have formatted : engine.format (.literal opposite.kind opposite) = .ok text := by
    rw [format, ordinary.dialect, Dialect.literalText_kind, written]
  have bare : engine.operandText false (.literal opposite.kind opposite) text = text := by
    rw [operandText, legible.beginsWithToken_of_opposite? shown spoken written, Bool.and_false]
    exact if_neg Bool.false_ne_true
  have operand : engine.formatOperands false [.literal opposite.kind opposite] = .ok [text] := by
    rw [formatOperands, formatted, formatOperands]
    exact congrArg (fun text => Except.ok [text]) bare
  refine ⟨text, by rw [format, ordinary.dialect, Dialect.literalText_kind, writtenToo], ?_⟩
  have negation := Library.mem_negation base
  rw [format_operation (ordinary.tokenOf?_eq negation) operand, Library.token_of_mem negation,
    operationText, List.flatten_singleton]
  rfl

/-- An operand with negations in place of numbers with a sign is written in the same way: a number with a
sign is in a block in either form, because of the token at its beginning. -/
theorem operandText_signedOperand {isOneOfMany : Bool} {operand : Tree}
    (signable : ∀ kind value, .literal kind value = operand → kind = value.kind ∧ engine.SaysSigned value)
    (same : engine.format (operand.signed ⟨Library.negationTag base, .negation⟩) = engine.format operand) :
    (engine.format (operand.signedOperand ⟨Library.negationTag base, .negation⟩)).map
        (engine.operandText isOneOfMany (operand.signedOperand ⟨Library.negationTag base, .negation⟩)) =
      (engine.format operand).map (engine.operandText isOneOfMany operand) := by
  rw [Tree.signedOperand]
  split
  · next negative =>
    cases operand with
    | literal kind value =>
      obtain ⟨rfl, sayable⟩ := signable kind value rfl
      obtain ⟨opposite, shown⟩ := Option.isSome_iff_exists.mp negative
      rw [SaysSigned, shown] at sayable
      obtain ⟨text, written, _⟩ := legible.format_of_opposite? shown sayable
      have begins : engine.beginsWithToken ('-' :: text) = true :=
        legible.toOrdinary.beginsWithToken_iff.mpr (.inr rfl)
      have enclosed : engine.format (.block (Tree.signed ⟨Library.negationTag base, .negation⟩
          (.literal value.kind value))) = .ok (engine.blockText ('-' :: text)) := by
        rw [format, same, written]
        rfl
      rw [enclosed, written, Except.map, Except.map, operandText, operandText, begins]
      rfl
    | _ => exact absurd negative Bool.false_ne_true
  · next unsigned =>
    have shape : needsBlock isOneOfMany (operand.signed ⟨Library.negationTag base, .negation⟩) =
        needsBlock isOneOfMany operand := by
      cases operand with
      | literal kind value =>
        have shown : value.opposite? = none := Option.not_isSome_iff_eq_none.mp unsigned
        simp only [Tree.signed, shown, needsBlock]
      | _ => simp only [Tree.signed, needsBlock]
    have text : engine.operandText isOneOfMany (operand.signed ⟨Library.negationTag base, .negation⟩) =
        engine.operandText isOneOfMany operand := by
      funext text
      rw [operandText, operandText, shape]
    rw [same, text]

/-- The expression with negations in place of numbers with a sign is written in the same way. -/
theorem format_signed {tree : Tree}
    (signable : ∀ kind value, Tree.Within (.literal kind value) tree →
      kind = value.kind ∧ engine.SaysSigned value) :
    engine.format (tree.signed ⟨Library.negationTag base, .negation⟩) = engine.format tree := by
  induction tree with
  | literal kind value =>
    obtain ⟨rfl, sayable⟩ := signable kind value .self
    cases shown : value.opposite? with
    | none => simp only [Tree.signed, shown]
    | some opposite =>
      rw [SaysSigned, shown] at sayable
      obtain ⟨text, written, same⟩ := legible.format_of_opposite? shown sayable
      simp only [Tree.signed, shown]
      rw [written, same]
  | constant | input => rw [Tree.signed]
  | operation operator operands ih =>
    rw [Tree.signed, Tree.signedOperands_eq_map, format, format, formatOperands_map]
    exact fun operand member => legible.operandText_signedOperand
      (fun kind value same => signable kind value (.operand (same ▸ member)))
      (ih operand member fun kind value within => signable kind value (within.trans (.operand member)))
  | call function operands ih =>
    rw [Tree.signed, Tree.signedAll_eq_map, format, format, formatAll_map]
    exact fun operand member => ih operand member fun kind value within =>
      signable kind value (within.trans (.argument member))
  | block inner ih =>
    rw [Tree.signed, format, format, ih fun kind value within => signable kind value (within.trans .inside)]

/-- An expression with signable parts is written, and what is written for it reads as an expression
with the same outcomes. -/
theorem exists_parse_of_signable {tree : Tree}
    (signable : ∀ part, Tree.Within part tree → engine.Signable base part) :
    ∃ text back, engine.format tree = .ok text ∧ engine.parse text = .ok back ∧ Tree.Alike back tree := by
  obtain ⟨text, written, writes⟩ :=
    legible.exists_writes_of_regular (regular_signed signable)
  obtain ⟨back, read, same⟩ := writes.reads
  have literals := fun kind value within => signable (.literal kind value) within
  rw [legible.format_signed literals] at written
  exact ⟨text, back, written, read, (Tree.alike_of_bare same).trans
    (Tree.signed_alike _ fun kind value within => (literals kind value within).1)⟩

end Legible

end Engine

end Reckoner
