import Reckoner.Function.Meaning
import Reckoner.Proofs.Typing.Operator

/-! # Functions keep to their result kinds

The counterpart for functions. Beside the failures of its operands and results beyond the longs, one
function has a failure of its own: no long is near to a double that is too large or no number.
-/

namespace Reckoner

variable {allowed : EvalError → Prop}

/-- The chosen branch is coerced to the common kind of the branches, which takes it. -/
theorem chooseOperand_yields {condition accepted rejected : Operand}
    (typed : condition.Typed allowed) (typedThen : accepted.Typed allowed)
    (typedElse : rejected.Typed allowed) (takes : Kind.boolean.takes condition.kind = true)
    {common : Kind} (join : Kind.joinAll? [accepted.kind, rejected.kind] = some common) :
    Except.Yields (Value.Fits common) allowed (chooseOperand [condition, accepted, rejected]) := by
  have above := Kind.takes_of_joinAll? join
  have coerced {source : Kind} {value : Value} (fits : value.Fits source)
      (takes : common.takes source = true) :
      Except.Yields (Value.Fits common) allowed (value.coerce common) := by
    obtain ⟨result, success, fine, _⟩ := fits.coerce takes
    exact success ▸ fine
  have joined : Kind.joined (Operand.kinds [accepted, rejected]) = common := Kind.joined_eq join
  rw [chooseOperand, joined]
  refine typed.bind fun decision _ fits => ?_
  have branch (truth : Option Bool) : Except.Yields (Value.Fits common) allowed (do
      let chosen ← if truth = some true then accepted.outcome else rejected.outcome
      chosen.coerce common) := by
    split
    · exact typedThen.bind fun value _ fits => coerced fits (above _ (by simp))
    · exact typedElse.bind fun value _ fits => coerced fits (above _ (by simp))
  rcases fits.boolean takes with rfl | ⟨truth, rfl⟩
  · exact branch none
  · exact branch (some truth)

/-- The first value that is there is coerced to a kind that takes all candidates. -/
theorem firstValue_yields {kind : Kind} {operands : List Operand}
    (typed : ∀ operand ∈ operands, operand.Typed allowed)
    (takes : ∀ operand ∈ operands, kind.takes operand.kind = true) :
    Except.Yields (Value.Fits kind) allowed (firstValue kind operands) := by
  induction operands with
  | nil => exact Value.fits_null kind
  | cons operand rest ih =>
    obtain ⟨here, others⟩ := List.forall_mem_cons.mp typed
    obtain ⟨taken, takesOthers⟩ := List.forall_mem_cons.mp takes
    rw [firstValue]
    refine here.bind fun value _ fits => ?_
    split
    · exact ih others takesOthers
    · obtain ⟨result, success, fine, _⟩ := fits.coerce taken
      exact success ▸ fine

/-- The extreme of values that a kind takes is of that kind, or null. -/
theorem extremeAfter_yields {wanted : Ordering} {kind : Kind} {best : Option Value}
    {values : List Value} (fits : ∀ value ∈ best, value.Fits kind)
    (takes : ∀ value ∈ values, kind.takes value.kind = true) :
    Except.Yields (Value.Fits kind) allowed (extremeAfter wanted kind best values) := by
  induction values generalizing best with
  | nil =>
    cases best with
    | none => exact Value.fits_null kind
    | some value => exact fits value rfl
  | cons value rest ih =>
    obtain ⟨taken, takesOthers⟩ := List.forall_mem_cons.mp takes
    rw [extremeAfter]
    split
    · exact Value.fits_null kind
    · obtain ⟨coerced, success, fine, _⟩ := (Value.fits_kind value).coerce taken
      rw [success, Except.ok_bind]
      split
      · exact ih (fun _ same => Option.some.inj same ▸ fine) takesOthers
      · next current =>
        obtain ⟨ordering, compared⟩ := Value.orderIn_eq_ok
          (fine.taken (Kind.takes_self kind))
          ((fits current rfl).taken (Kind.takes_self kind))
        rw [compared, Except.ok_bind]
        split
        · exact ih (fun _ same => Option.some.inj same ▸ fine) takesOthers
        · exact ih fits takesOthers

/-- An extreme of numbers is a number of their kind, or null. -/
theorem extremeOperand_yields {wanted : Ordering} {operands : List Operand}
    (typed : ∀ operand ∈ operands, operand.Typed allowed)
    (takes : Kind.double.takesAll (Operand.kinds operands) = true) :
    Except.Yields (Value.Fits (Kind.promoted (Operand.kinds operands))) allowed
      (extremeOperand wanted operands) := by
  refine (Operand.values_yields typed fun operand member =>
    Kind.takes_promoted takes _ (List.mem_map_of_mem member)).bind fun values _ taken => ?_
  exact extremeAfter_yields (fun _ member => absurd member (Option.not_mem_none _)) taken

/-- A result computed from a text is computed of every text. -/
theorem ofText_yields {kind : Kind} {operand : Operand}
    {compute : List Char → Except EvalError Value} (typed : operand.Typed allowed)
    (takes : Kind.string.takes operand.kind = true)
    (step : ∀ text, Except.Yields (Value.Fits kind) allowed (compute text)) :
    Except.Yields (Value.Fits kind) allowed (ofText [operand] compute) := by
  refine typed.bind fun value _ fits => ?_
  rcases fits.string takes with rfl | ⟨text, rfl⟩
  · exact Value.fits_null _
  · exact step _

/-- The absolute value of a number is of its kind, and may overflow. -/
theorem absoluteValue_yields {kind : Kind} {value : Value} (overflow : allowed .overflow)
    (numeric : kind = .long ∨ kind = .double) (takes : kind.takes value.kind = true)
    (present : value.isNull = false) :
    Except.Yields (Value.Fits kind) allowed (absoluteValue kind value) := by
  rcases numeric with rfl | rfl
  · obtain ⟨n, rfl⟩ := Value.long_of_takes takes present
    rw [absoluteValue, if_pos rfl, Value.asLong_long, Except.ok_bind]
    cases n.abs? with
    | none => exact overflow
    | some positive => exact Value.fits_kind (.long _)
  · obtain ⟨x, read⟩ := Value.asDouble_of_takes takes present
    rw [absoluteValue, if_neg (by decide), read]
    exact Value.fits_kind (.double _)

/-- A number rounds to a long, or is a double without one. -/
theorem roundedValue_yields {value : Value} (takes : Kind.double.takes value.kind = true)
    (present : value.isNull = false)
    (unroundable : ∀ x, value = .double x → x.round? = none → allowed (.unroundable x)) :
    Except.Yields (Value.Fits .long) allowed (roundedValue value) := by
  rcases (Value.fits_kind value).number takes with rfl | ⟨n, rfl⟩ | ⟨x, rfl⟩
  · exact absurd present (by decide)
  · exact Value.fits_kind (.long _)
  · rw [roundedValue, Value.asDouble_double, Except.ok_bind]
    · split
      · exact Value.fits_kind (.long _)
      · next failed => exact unroundable x rfl failed
    · intro n same
      cases same

/-- What an accepting function makes of operands that keep to their kinds keeps to its result kind. -/
theorem FunctionKind.apply_yields {function : FunctionKind} {operands : List Operand}
    {fallback? : Option Value} (typed : ∀ operand ∈ operands, operand.Typed allowed)
    (overflow : allowed .overflow)
    (unroundable : ∀ operand x, function = .round → operands = [operand] →
      operand.outcome = .ok (.double x) → x.round? = none → allowed (.unroundable x))
    (accepts : function.accepts (Operand.kinds operands) fallback? = true) :
    Except.Yields (Value.Fits (function.resultKind (Operand.kinds operands))) allowed
      (function.apply operands) := by
  cases function with
  | conditional =>
    rw [FunctionKind.accepts, Bool.and_eq_true, Bool.and_eq_true, beq_iff_eq, Operand.kinds,
      List.length_map, List.length_eq_three] at accepts
    obtain ⟨⟨⟨condition, accepted, rejected, rfl⟩, takes⟩, join⟩ := accepts
    obtain ⟨common, join⟩ := Option.isSome_iff_exists.mp join
    have same : conditional.resultKind (Operand.kinds [condition, accepted, rejected]) = common :=
      Kind.joined_eq join
    obtain ⟨typed, typedThen, typedElse⟩ : condition.Typed allowed ∧ accepted.Typed allowed ∧
      rejected.Typed allowed := by simpa using typed
    rw [same]
    exact chooseOperand_yields typed typedThen typedElse
      (Kind.takesAll_iff.mp takes _ (List.mem_singleton_self _)) join
  | isNull | kindName =>
    rw [FunctionKind.accepts, beq_iff_eq, Operand.kinds, List.length_map,
      List.length_eq_one_iff] at accepts
    obtain ⟨operand, rfl⟩ := accepts
    exact (typed operand (List.mem_singleton_self _)).bind fun _ _ _ => .inr rfl
  | noNull =>
    obtain ⟨common, join⟩ := Option.isSome_iff_exists.mp (Bool.and_eq_true_iff.mp accepts).2
    rw [FunctionKind.apply, FunctionKind.resultKind, Kind.joined_eq join]
    exact firstValue_yields typed fun operand member =>
      Kind.takes_of_joinAll? join _ (List.mem_map_of_mem member)
  | noZero =>
    obtain ⟨operand, rfl, takes⟩ := Operand.eq_singleton_of_accepts accepts
    refine (typed operand (List.mem_singleton_self _)).bind fun value _ fits => ?_
    split
    · exact Value.fits_null _
    · exact fits
  | hexadecimal =>
    obtain ⟨operand, rfl, takes⟩ := Operand.eq_singleton_of_accepts accepts
    refine Operand.firstUnlessNull_yields (typed operand (List.mem_singleton_self _))
      fun value fits present _ => ?_
    obtain ⟨n, rfl⟩ := Value.long_of_takes (fits.taken takes) present
    exact Value.fits_kind (.string _)
  | squareRoot =>
    obtain ⟨operand, rfl, takes⟩ := Operand.eq_singleton_of_accepts accepts
    refine Operand.firstUnlessNull_yields (typed operand (List.mem_singleton_self _))
      fun value fits present _ => ?_
    obtain ⟨x, read⟩ := Value.asDouble_of_takes (fits.taken takes) present
    rw [read]
    exact Value.fits_kind (.double _)
  | evaluates => exact Value.fits_kind (.boolean _)
  | now instant => exact Value.fits_kind (.dateTime _)
  | absolute =>
    obtain ⟨operand, rfl, takes⟩ := Operand.eq_singleton_of_accepts accepts
    refine Operand.firstUnlessNull_yields (typed operand (List.mem_singleton_self _))
      fun value fits present _ => ?_
    have numeric : (Kind.promoted (Operand.kinds [operand])).takes operand.kind = true :=
      Kind.takes_promoted (Kind.takesAll_iff.mpr (List.forall_mem_singleton.mpr takes)) _ (List.mem_singleton_self _)
    exact absoluteValue_yields overflow (Kind.promoted_eq _) (fits.taken numeric) present
  | round =>
    obtain ⟨operand, rfl, takes⟩ := Operand.eq_singleton_of_accepts accepts
    refine Operand.firstUnlessNull_yields (typed operand (List.mem_singleton_self _))
      fun value fits present success => ?_
    refine roundedValue_yields (fits.taken takes) present ?_
    rintro x rfl failed
    exact unroundable operand x rfl rfl success failed
  | least | greatest =>
    exact extremeOperand_yields typed (Bool.and_eq_true_iff.mp accepts).2
  | length =>
    obtain ⟨operand, rfl, takes⟩ := Operand.eq_singleton_of_accepts accepts
    rw [FunctionKind.apply, FunctionKind.resultKind]
    refine ofText_yields (typed operand (List.mem_singleton_self _)) takes fun text => ?_
    cases Long.ofInt? text.length with
    | none => exact overflow
    | some n => exact Value.fits_kind (.long _)
  | upper | lower =>
    obtain ⟨operand, rfl, takes⟩ := Operand.eq_singleton_of_accepts accepts
    rw [FunctionKind.apply, FunctionKind.resultKind]
    exact ofText_yields (typed operand (List.mem_singleton_self _)) takes fun _ =>
      Value.fits_kind (.string _)

end Reckoner
