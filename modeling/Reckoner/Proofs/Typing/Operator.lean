import Reckoner.Operator.Meaning
import Reckoner.Proofs.Typing.Value

/-! # Operators keep to their result kinds

Operands that keep to their declared kinds, and that an operator accepts, make a result of the kind
which the operator declares. It fails only where an operand does or where a sum, a difference, a
product or an opposite leaves the longs: no coercion inside an operator ever fails.
-/

namespace Reckoner

variable {allowed : EvalError → Prop}

namespace Value

theorem exists_eq_long {value : Value} (sort : value.kind = .long) : ∃ n, value = .long n := by
  cases value <;> first | exact ⟨_, rfl⟩ | cases sort

theorem exists_eq_double {value : Value} (sort : value.kind = .double) : ∃ x, value = .double x := by
  cases value <;> first | exact ⟨_, rfl⟩ | cases sort

/-- A value that a long takes and that is not null is a long. -/
theorem long_of_takes {value : Value} (takes : Kind.long.takes value.kind = true)
    (present : value.isNull = false) : ∃ n, value = .long n := by
  rcases (fits_kind value).long takes with rfl | long
  · exact absurd present (by decide)
  · exact long

/-- A value that a double takes and that is not null can be read as a double. -/
theorem asDouble_of_takes {value : Value} (takes : Kind.double.takes value.kind = true)
    (present : value.isNull = false) : ∃ x, value.asDouble = .ok x := by
  rcases (fits_kind value).number takes with rfl | ⟨n, rfl⟩ | ⟨x, rfl⟩
  · exact absurd present (by decide)
  · exact ⟨_, asDouble_long n⟩
  · exact ⟨_, asDouble_double x⟩

/-- Longs are combined to a long, or overflow. -/
theorem combineLongs_yields (combine : Long → Long → Option Long) {values : List Value}
    (longs : ∀ value ∈ values, ∃ n, value = .long n) (start : Long) :
    Except.Yields (fun _ => True) (· = .overflow) (combineLongs combine start values) := by
  induction values generalizing start with
  | nil => exact trivial
  | cons value rest ih =>
    obtain ⟨⟨n, rfl⟩, others⟩ := List.forall_mem_cons.mp longs
    rw [combineLongs, List.foldlM_cons, asLong_long, Except.ok_bind]
    cases combine start n with
    | none => exact rfl
    | some total => exact ih others total

/-- Numbers are combined to a double. -/
theorem combineDoubles_eq_ok (combine : Double → Double → Double) {values : List Value}
    (numbers : ∀ value ∈ values, ∃ x, value.asDouble = .ok x) (start : Double) :
    ∃ total, combineDoubles combine start values = .ok total := by
  induction values generalizing start with
  | nil => exact ⟨start, rfl⟩
  | cons value rest ih =>
    obtain ⟨⟨x, number⟩, others⟩ := List.forall_mem_cons.mp numbers
    obtain ⟨total, sum⟩ := ih others (combine start x)
    refine ⟨total, ?_⟩
    rw [combineDoubles, List.foldlM_cons, number]
    exact sum

/-- Present numbers that a numeric kind takes are combined within that kind. -/
theorem combined_yields {kind : Kind} {combine : Long → Long → Option Long} {first : Long}
    {combineToo : Double → Double → Double} {firstToo : Double} {values : List Value}
    (numeric : kind = .long ∨ kind = .double)
    (numbers : ∀ value ∈ values, kind.takes value.kind = true ∧ value.isNull = false) :
    Except.Yields (fun value : Value => value.kind = kind) (· = .overflow)
      (if kind = .long then (combineLongs combine first values).map .long
        else (combineDoubles combineToo firstToo values).map .double) := by
  rcases numeric with rfl | rfl
  · have longs := combineLongs_yields combine (fun value member =>
      long_of_takes (numbers value member).1 (numbers value member).2) first
    rw [if_pos rfl]
    exact longs.map fun _ _ => rfl
  · obtain ⟨total, sum⟩ := combineDoubles_eq_ok combineToo (fun value member =>
      asDouble_of_takes (numbers value member).1 (numbers value member).2) firstToo
    rw [if_neg (by decide), sum]
    exact rfl

/-- A sum is of the kind in which it is computed, and may overflow. -/
theorem sum_yields {kind : Kind} {values : List Value} (numeric : kind = .long ∨ kind = .double)
    (numbers : ∀ value ∈ values, kind.takes value.kind = true ∧ value.isNull = false) :
    Except.Yields (fun value : Value => value.kind = kind) (· = .overflow) (sum kind values) :=
  combined_yields numeric numbers

/-- A product is of the kind in which it is computed, and may overflow. -/
theorem product_yields {kind : Kind} {values : List Value}
    (numeric : kind = .long ∨ kind = .double)
    (numbers : ∀ value ∈ values, kind.takes value.kind = true ∧ value.isNull = false) :
    Except.Yields (fun value : Value => value.kind = kind) (· = .overflow) (product kind values) :=
  combined_yields numeric numbers

/-- A difference is of the kind in which it is computed, and may overflow. -/
theorem difference_yields {kind : Kind} {values : List Value}
    (numeric : kind = .long ∨ kind = .double)
    (numbers : ∀ value ∈ values, kind.takes value.kind = true ∧ value.isNull = false) :
    Except.Yields (Fits kind) (· = .overflow) (difference kind values) := by
  cases values with
  | nil => exact fits_null kind
  | cons first rest =>
    obtain ⟨⟨takes, present⟩, others⟩ := List.forall_mem_cons.mp numbers
    refine (sum_yields numeric others).bind fun total _ sort => ?_
    rcases numeric with rfl | rfl
    · obtain ⟨left, rfl⟩ := long_of_takes takes present
      obtain ⟨right, rfl⟩ := exists_eq_long sort
      rw [if_pos rfl, asLong_long, asLong_long, Except.ok_bind, Except.ok_bind]
      cases left.sub? right with
      | none => exact rfl
      | some n => exact .inr rfl
    · obtain ⟨left, number⟩ := asDouble_of_takes takes present
      obtain ⟨right, rfl⟩ := exists_eq_double sort
      rw [if_neg (by decide), number, asDouble_double]
      exact .inr rfl

/-- Values of kinds that the kind `kind` takes can be compared in it. -/
theorem orderIn_eq_ok {kind : Kind} {left right : Value} (above : kind.takes left.kind = true)
    (aboveToo : kind.takes right.kind = true) :
    ∃ ordering, orderIn kind left right = .ok ordering := by
  obtain ⟨first, coerced, _⟩ := (fits_kind left).coerce above
  obtain ⟨second, coercedToo, _⟩ := (fits_kind right).coerce aboveToo
  unfold orderIn
  split
  · exact ⟨_, rfl⟩
  · exact ⟨_, rfl⟩
  · exact ⟨_, rfl⟩
  · exact ⟨_, by rw [coerced, Except.ok_bind, coercedToo, Except.ok_bind]⟩

/-- A value that fits a kind is taken by whatever takes the kind. -/
theorem Fits.taken {kind source : Kind} {value : Value} (fits : value.Fits source)
    (takes : kind.takes source = true) : kind.takes value.kind = true := by
  rcases fits with rfl | rfl
  · exact Kind.takes_null kind
  · exact takes

end Value

namespace Operand

/-- An operand that evaluates to a value of its declared kind, and fails only as `allowed`. -/
def Typed (allowed : EvalError → Prop) (operand : Operand) : Prop :=
  Except.Yields (Value.Fits operand.kind) allowed operand.outcome

/-- What takes all kinds takes that of every operand. -/
theorem takes_of_takesAll {kind : Kind} {operands : List Operand}
    (takes : kind.takesAll (kinds operands) = true) :
    ∀ operand ∈ operands, kind.takes operand.kind = true := fun _ member =>
  Kind.takesAll_iff.mp takes _ (List.mem_map_of_mem member)

/-- A sole operand of a kind that `kind` takes. -/
theorem eq_singleton_of_accepts {kind : Kind} {operands : List Operand}
    (accepts : ((kinds operands).length == 1 && kind.takesAll (kinds operands)) = true) :
    ∃ operand, operands = [operand] ∧ kind.takes operand.kind = true := by
  obtain ⟨one, takes⟩ := Bool.and_eq_true_iff.mp accepts
  rw [kinds, List.length_map, beq_iff_eq, List.length_eq_one_iff] at one
  obtain ⟨operand, rfl⟩ := one
  exact ⟨operand, rfl, takes_of_takesAll takes operand (List.mem_singleton_self _)⟩

/-- Typed operands have values that are taken where their kinds are. -/
theorem values_yields {kind : Kind} {operands : List Operand}
    (typed : ∀ operand ∈ operands, operand.Typed allowed)
    (takes : ∀ operand ∈ operands, kind.takes operand.kind = true) :
    Except.Yields (fun values => ∀ value ∈ values, kind.takes value.kind = true) allowed
      (values operands) := by
  exact Except.Yields.mapM fun operand member =>
    (typed operand member).imp (fun value fits => fits.taken (takes operand member))
      fun _ failure => failure

/-- A result that is null unless all operands are present is computed from present values only. -/
theorem unlessNull_yields {kind upper : Kind} {operands : List Operand}
    {compute : List Value → Except EvalError Value}
    (typed : ∀ operand ∈ operands, operand.Typed allowed)
    (takes : ∀ operand ∈ operands, upper.takes operand.kind = true)
    (step : ∀ values,
      (∀ value ∈ values, upper.takes value.kind = true ∧ value.isNull = false) →
      Except.Yields (Value.Fits kind) allowed (compute values)) :
    Except.Yields (Value.Fits kind) allowed (unlessNull operands compute) := by
  refine (values_yields typed takes).bind fun values _ taken => ?_
  split
  · exact Value.fits_null kind
  · next present =>
    rw [List.any_eq_true, not_exists] at present
    refine step values fun value member => ⟨taken value member, ?_⟩
    exact Bool.eq_false_iff.mpr fun null => present value ⟨member, null⟩

/-- A result that is null unless the first operand is present is computed from a present value. -/
theorem firstUnlessNull_yields {kind : Kind} {operand : Operand} {rest : List Operand}
    {compute : Value → Except EvalError Value} (typed : operand.Typed allowed)
    (step : ∀ value, value.Fits operand.kind → value.isNull = false →
      operand.outcome = .ok value → Except.Yields (Value.Fits kind) allowed (compute value)) :
    Except.Yields (Value.Fits kind) allowed (firstUnlessNull (operand :: rest) compute) := by
  refine typed.bind fun value success fits => ?_
  split
  · exact Value.fits_null kind
  · next present =>
    refine step value fits ?_ success
    exact Bool.eq_false_iff.mpr fun null => present ((Value.isNull_iff value).mp null)

/-- Numbers are summed up or multiplied in the kind in which they are computed. -/
theorem arithmetic_yields {operands : List Operand} {compute : List Value → Except EvalError Value}
    (typed : ∀ operand ∈ operands, operand.Typed allowed) (overflow : allowed .overflow)
    (takes : Kind.double.takesAll (kinds operands) = true)
    (step : ∀ values,
      (∀ value ∈ values, (Kind.promoted (kinds operands)).takes value.kind = true ∧
        value.isNull = false) →
      Except.Yields (Value.Fits (Kind.promoted (kinds operands))) (· = .overflow)
        (compute values)) :
    Except.Yields (Value.Fits (Kind.promoted (kinds operands))) allowed
      (unlessNull operands compute) := by
  have taken : ∀ operand ∈ operands, (Kind.promoted (kinds operands)).takes operand.kind = true :=
    fun operand member => Kind.takes_promoted takes _ (List.mem_map_of_mem member)
  refine unlessNull_yields typed taken
    fun values numbers => (step values numbers).imp (fun value fits => fits) ?_
  rintro error rfl
  exact overflow

end Operand

/-- A connective of operands that are truth values or null is a truth value or null. -/
theorem connectiveAfter_yields {dominant sawNull : Bool} {operands : List Operand}
    (typed : ∀ operand ∈ operands, operand.Typed allowed)
    (takes : ∀ operand ∈ operands, Kind.boolean.takes operand.kind = true) :
    Except.Yields (Value.Fits .boolean) allowed (connectiveAfter dominant sawNull operands) := by
  induction operands generalizing sawNull with
  | nil =>
    cases sawNull with
    | false => exact Value.fits_kind (.boolean _)
    | true => exact Value.fits_null _
  | cons operand rest ih =>
    obtain ⟨here, others⟩ := List.forall_mem_cons.mp typed
    obtain ⟨taken, takesOthers⟩ := List.forall_mem_cons.mp takes
    rw [connectiveAfter]
    refine here.bind fun value _ fits => ?_
    rcases fits.boolean taken with rfl | ⟨truth, rfl⟩
    · exact ih others takesOthers
    · rw [Value.asTruth_boolean, Except.ok_bind]
      dsimp only
      split
      · exact Value.fits_kind (.boolean _)
      · exact ih others takesOthers

/-- Texts one after another are a text, or null if one of them is null. -/
theorem concatenateAfter_yields {done : String} {operands : List Operand}
    (typed : ∀ operand ∈ operands, operand.Typed allowed)
    (takes : ∀ operand ∈ operands, Kind.string.takes operand.kind = true) :
    Except.Yields (Value.Fits .string) allowed (concatenateAfter done operands) := by
  induction operands generalizing done with
  | nil => exact Value.fits_kind (.string _)
  | cons operand rest ih =>
    obtain ⟨here, others⟩ := List.forall_mem_cons.mp typed
    obtain ⟨taken, takesOthers⟩ := List.forall_mem_cons.mp takes
    rw [concatenateAfter]
    refine here.bind fun value _ fits => ?_
    rcases fits.string taken with rfl | ⟨text, rfl⟩
    · exact Value.fits_null _
    · exact ih others takesOthers

/-- The complement of a truth value is one, or null. -/
theorem complement_yields {operand : Operand} (typed : operand.Typed allowed)
    (takes : Kind.boolean.takes operand.kind = true) :
    Except.Yields (Value.Fits .boolean) allowed (complement [operand]) := by
  refine typed.bind fun value _ fits => ?_
  rcases fits.boolean takes with rfl | ⟨truth, rfl⟩
  · exact Value.fits_null _
  · exact Value.fits_kind (.boolean _)

/-- A comparison of operands with a common kind is a truth value. -/
theorem Comparison.apply_yields {comparison : Comparison} {operands : List Operand}
    (typed : ∀ operand ∈ operands, operand.Typed allowed)
    (join : (Kind.joinAll? (Operand.kinds operands)).isSome = true) :
    Except.Yields (Value.Fits .boolean) allowed (comparison.apply operands) := by
  obtain ⟨common, join⟩ := Option.isSome_iff_exists.mp join
  have takes (operand : Operand) (member : operand ∈ operands) : common.takes operand.kind = true :=
    Kind.takes_of_joinAll? join _ (List.mem_map_of_mem member)
  match operands with
  | [] | [_] => exact Value.fits_null _
  | left :: right :: others =>
    rw [apply, Kind.joined_eq join]
    refine (typed left (by simp)).bind fun first _ fits => ?_
    refine (typed right (by simp)).bind fun second _ fitsToo => ?_
    obtain ⟨ordering, compared⟩ := Value.orderIn_eq_ok (fits.taken (takes left (by simp)))
      (fitsToo.taken (takes right (by simp)))
    rw [compared]
    exact Value.fits_kind (.boolean _)

/-- A product is of the kind of its operands taken together, and may overflow. -/
theorem multiplyOperands_yields {operands : List Operand}
    (typed : ∀ operand ∈ operands, operand.Typed allowed) (overflow : allowed .overflow)
    (takes : Kind.double.takesAll (Operand.kinds operands) = true) :
    Except.Yields (Value.Fits (Kind.promoted (Operand.kinds operands))) allowed
      (multiplyOperands operands) :=
  Operand.arithmetic_yields typed overflow takes fun _ numbers =>
    (Value.product_yields (Kind.promoted_eq _) numbers).imp (fun _ sort => .inr sort)
      fun _ failure => failure

/-- Divisors amount to a number or to null. -/
theorem divisorOutcome_yields {operands : List Operand}
    (typed : ∀ operand ∈ operands, operand.Typed allowed) (overflow : allowed .overflow)
    (takes : Kind.double.takesAll (Operand.kinds operands) = true) :
    Except.Yields (fun value => Kind.double.takes value.kind = true) allowed
      (divisorOutcome operands) := by
  have product := (multiplyOperands_yields typed overflow takes).imp
    (fun value fits => fits.taken (Kind.double_takes_promoted _)) fun _ failure => failure
  unfold divisorOutcome
  split
  · next single =>
    have taken := Operand.takes_of_takesAll takes single (List.mem_singleton_self _)
    exact (typed single (List.mem_singleton_self _)).imp (fun value fits => fits.taken taken)
      fun _ failure => failure
  · exact product

/-- A quotient is a double. -/
theorem divideOperands_yields {operands : List Operand}
    (typed : ∀ operand ∈ operands, operand.Typed allowed) (overflow : allowed .overflow)
    (takes : Kind.double.takesAll (Operand.kinds operands) = true) :
    Except.Yields (Value.Fits .double) allowed (divideOperands operands) := by
  have present {value : Value} (something : ¬ value.isNothing = true) : value.isNull = false := by
    rw [Value.isNothing, Bool.or_eq_true, not_or] at something
    exact Bool.eq_false_iff.mpr something.1
  cases operands with
  | nil => exact Value.fits_null _
  | cons numerator divisors =>
    obtain ⟨here, others⟩ := List.forall_mem_cons.mp typed
    obtain ⟨taken, takesOthers⟩ := Bool.and_eq_true_iff.mp takes
    rw [divideOperands]
    refine here.bind fun value _ fits => ?_
    split
    · exact Value.fits_kind (.double _)
    · next something =>
      refine (divisorOutcome_yields others overflow takesOthers).bind fun divisor _ takesDivisor => ?_
      split
      · exact Value.fits_kind (.double _)
      · next somethingToo =>
        obtain ⟨left, read⟩ := Value.asDouble_of_takes (fits.taken taken) (present something)
        obtain ⟨right, readToo⟩ := Value.asDouble_of_takes takesDivisor (present somethingToo)
        rw [read, readToo]
        exact Value.fits_kind (.double _)

/-- A square is a double, or null. -/
theorem squareOperand_yields {operand : Operand} (typed : operand.Typed allowed)
    (takes : Kind.double.takes operand.kind = true) :
    Except.Yields (Value.Fits .double) allowed (squareOperand [operand]) := by
  refine Operand.firstUnlessNull_yields typed fun value fits present _ => ?_
  obtain ⟨x, read⟩ := Value.asDouble_of_takes (fits.taken takes) present
  rw [read]
  exact Value.fits_kind (.double _)

/-- The opposite of a number is of its kind, or null, and may overflow. -/
theorem negateOperand_yields {operand : Operand} (typed : operand.Typed allowed)
    (overflow : allowed .overflow) (takes : Kind.double.takes operand.kind = true) :
    Except.Yields (Value.Fits (Kind.promoted [operand.kind])) allowed (negateOperand [operand]) := by
  refine typed.bind fun value _ fits => ?_
  have numeric : Kind.double.takesAll [operand.kind] = true :=
    Kind.takesAll_iff.mpr (List.forall_mem_singleton.mpr takes)
  have taken := fits.taken (Kind.takes_promoted numeric _ (List.mem_singleton_self _))
  simp only [Operand.kinds, List.map_cons, List.map_nil]
  rcases Kind.promoted_eq [operand.kind] with long | double
  · rw [long, if_neg (fun double => absurd double.1 (by decide))]
    rcases (Value.fits_kind value).long (long ▸ taken) with rfl | ⟨n, rfl⟩
    · exact Value.fits_null _
    · rw [Value.negate]
      cases n.neg? with
      | none => exact overflow
      | some opposite => exact Value.fits_kind (.long _)
  · rw [double]
    split
    · next present =>
      obtain ⟨x, read⟩ := Value.asDouble_of_takes (double ▸ taken)
        (Bool.eq_false_iff.mpr fun null => present.2 ((Value.isNull_iff value).mp null))
      rw [read]
      exact Value.fits_kind (.double _)
    · next absent =>
      obtain rfl : value = .null := by simpa using absent
      exact Value.fits_null _

/-- What an accepting operator makes of operands that keep to their kinds keeps to its result kind. -/
theorem OperatorKind.apply_yields {operator : OperatorKind} {operands : List Operand}
    (typed : ∀ operand ∈ operands, operand.Typed allowed) (overflow : allowed .overflow)
    (accepts : operator.accepts (Operand.kinds operands) = true) :
    Except.Yields (Value.Fits (operator.resultKind (Operand.kinds operands))) allowed
      (operator.apply operands) := by
  cases operator with
  | or | and =>
    have takes := (Bool.and_eq_true_iff.mp accepts).2
    exact connectiveAfter_yields typed (Operand.takes_of_takesAll takes)
  | not =>
    obtain ⟨operand, rfl, takes⟩ := Operand.eq_singleton_of_accepts accepts
    exact complement_yields (typed operand (List.mem_singleton_self _)) takes
  | comparison relation =>
    exact relation.apply_yields typed (Bool.and_eq_true_iff.mp accepts).2
  | addition =>
    have takes := (Bool.and_eq_true_iff.mp accepts).2
    exact Operand.arithmetic_yields typed overflow takes fun _ numbers =>
      (Value.sum_yields (Kind.promoted_eq _) numbers).imp (fun _ sort => .inr sort)
        fun _ failure => failure
  | concatenation =>
    have takes := (Bool.and_eq_true_iff.mp accepts).2
    exact concatenateAfter_yields typed (Operand.takes_of_takesAll takes)
  | subtraction _ _ =>
    have takes := (Bool.and_eq_true_iff.mp accepts).2
    exact Operand.arithmetic_yields typed overflow takes fun _ numbers =>
      Value.difference_yields (Kind.promoted_eq _) numbers
  | multiplication =>
    exact multiplyOperands_yields typed overflow (Bool.and_eq_true_iff.mp accepts).2
  | division _ =>
    exact divideOperands_yields typed overflow (Bool.and_eq_true_iff.mp accepts).2
  | square =>
    obtain ⟨operand, rfl, takes⟩ := Operand.eq_singleton_of_accepts accepts
    exact squareOperand_yields (typed operand (List.mem_singleton_self _)) takes
  | negation =>
    obtain ⟨operand, rfl, takes⟩ := Operand.eq_singleton_of_accepts accepts
    exact negateOperand_yields (typed operand (List.mem_singleton_self _)) overflow takes

end Reckoner
