import Reckoner.Proofs.Expression
import Reckoner.Proofs.Text.Case
import Reckoner.Proofs.Writing.Numeral

/-! # Values without anything that writing loses

A text with a quote has no literal, and the fraction of a second is not written. Neither comes about in
evaluation: what operators and functions make of values without them is without them as well.
-/

namespace Reckoner

/-- The value has no quote in a text and no fraction of a second. -/
def Value.Exact : Value → Prop
  | .string text => '"' ∉ text.toList
  | .time clock => clock.fraction = 0
  | .dateTime moment => moment.time.fraction = 0
  | _ => True

/-- The outcome is an exact value if it is any. -/
def ExactOutcome (outcome : Except EvalError Value) : Prop := ∀ value, outcome = .ok value → value.Exact

namespace ExactOutcome

theorem ok {value : Value} (exact : value.Exact) : ExactOutcome (.ok value) := fun _ same =>
  Except.ok.inj same ▸ exact

theorem error (error : EvalError) : ExactOutcome (.error error) := fun _ same => by cases same

/-- A chain has an exact outcome if its last step has one for every value before. -/
theorem bind {α : Type} {first : Except EvalError α} {next : α → Except EvalError Value}
    (exact : ∀ result, first = .ok result → ExactOutcome (next result)) : ExactOutcome (first >>= next) := by
  intro value success
  obtain ⟨result, before, after⟩ := Except.bind_eq_ok_iff.mp success
  exact exact result before value after

theorem map {α : Type} {change : α → Value} (exact : ∀ result, (change result).Exact)
    (first : Except EvalError α) : ExactOutcome (first.map change) := by
  intro value success
  obtain ⟨result, _, rfl⟩ := Except.map_eq_ok_iff.mp success
  exact exact result

theorem long (first : Except EvalError Long) : ExactOutcome (first.map .long) :=
  map (fun n => show (Value.long n).Exact from trivial) first

theorem double (change : Double → Double) (first : Except EvalError Double) :
    ExactOutcome (first.map fun x => .double (change x)) :=
  map (fun x => show (Value.double (change x)).Exact from trivial) first

end ExactOutcome

namespace Value

/-- An exact value stays exact in another kind. -/
theorem Exact.coerce {value : Value} (exact : value.Exact) (kind : Kind) :
    ExactOutcome (value.coerce kind) := by
  rw [Value.coerce]
  unfold convert
  split
  · split
    · exact .ok trivial
    · exact .ok trivial
    · exact .ok (by rfl)
    · exact .ok exact
    · split
      · exact .ok exact
      · exact .error _
  · exact .error _

/-- The text that an exact value is has no quote. -/
theorem Exact.text {value : Value} (exact : value.Exact) {text : String}
    (read : value.asText = .ok (some text)) : '"' ∉ text.toList := by
  obtain ⟨coerced, success, same⟩ := Except.map_eq_ok_iff.mp read
  have whole := exact.coerce .string coerced success
  cases coerced with
  | string content =>
    obtain rfl := Option.some.inj same
    exact whole
  | _ => cases same

/-- A sum has no text and no time in it, so it is exact. -/
theorem exact_sum (kind : Kind) (values : List Value) : ExactOutcome (sum kind values) := by
  unfold sum
  split
  · exact .long _
  · exact .double _ _

theorem exact_product (kind : Kind) (values : List Value) : ExactOutcome (product kind values) := by
  unfold product
  split
  · exact .long _
  · exact .double _ _

theorem exact_difference (kind : Kind) (values : List Value) : ExactOutcome (difference kind values) := by
  unfold difference
  split
  · exact .ok trivial
  · refine .bind fun _ _ => ?_
    split
    · exact .bind fun _ _ => .bind fun _ _ => .long _
    · exact .bind fun _ _ => .bind fun _ _ => .ok trivial

theorem exact_zero (kind : Kind) : (zero kind).Exact := by
  unfold zero
  split <;> trivial

theorem exact_negate (value : Value) : ExactOutcome value.negate := by
  unfold negate
  split
  · exact .ok trivial
  · exact .long _
  · exact .double _ _

end Value

/-- No numeral has a quote. -/
theorem Long.quote_not_mem_numeral (n : Long) (radix : Nat) : '"' ∉ n.numeral radix := by
  intro member
  obtain ⟨size, numeral, _⟩ := Option.bind_eq_some_iff.mp (Long.ofNumeral?_numeral radix n)
  rcases Numeral.isWordChar_or_isSign_of_readInt? numeral _ member with word | sign
  · exact absurd word (by decide)
  · exact absurd sign (by decide)

section Operators

variable {operands : List Operand}

/-- What is computed from values is exact if each computation is, null included. -/
theorem exact_unlessNull {compute : List Value → Except EvalError Value}
    (exact : ∀ values, ExactOutcome (compute values)) :
    ExactOutcome (Operand.unlessNull operands compute) := by
  refine .bind fun values _ => ?_
  split
  · exact .ok trivial
  · exact exact values

theorem exact_firstUnlessNull {compute : Value → Except EvalError Value}
    (exact : ∀ value, ExactOutcome (compute value)) :
    ExactOutcome (Operand.firstUnlessNull operands compute) := by
  refine .bind fun value _ => ?_
  split
  · exact .ok trivial
  · exact exact value

/-- A connective answers exact values whatever its operands are. -/
theorem exact_connectiveAfter (dominant sawNull : Bool) :
    ExactOutcome (connectiveAfter dominant sawNull operands) := by
  induction operands generalizing sawNull with
  | nil =>
    rw [connectiveAfter]
    cases sawNull <;> exact .ok trivial
  | cons operand rest ih =>
    rw [connectiveAfter]
    refine .bind fun _ _ => .bind fun truth _ => ?_
    cases truth with
    | none => exact ih true
    | some truth =>
      dsimp only
      split
      · exact .ok trivial
      · exact ih sawNull

theorem exact_divideOperands : ExactOutcome (divideOperands operands) := by
  unfold divideOperands
  split
  · exact .ok trivial
  · refine .bind fun _ _ => ?_
    split
    · exact .ok trivial
    · refine .bind fun _ _ => ?_
      split
      · exact .ok trivial
      · exact .bind fun _ _ => .bind fun _ _ => .ok trivial

variable (exact : ∀ operand ∈ operands, ExactOutcome operand.outcome)

include exact

/-- The first operand has an exact outcome. -/
theorem exact_firstOutcome : ExactOutcome (Operand.firstOutcome operands) := by
  cases operands with
  | nil => exact .ok trivial
  | cons operand rest => exact exact operand (List.mem_cons_self ..)

/-- Texts without quotes one after another have no quotes. -/
theorem exact_concatenateAfter {done : String} (exactToo : '"' ∉ done.toList) :
    ExactOutcome (concatenateAfter done operands) := by
  induction operands generalizing done with
  | nil => exact .ok exactToo
  | cons operand rest ih =>
    obtain ⟨here, others⟩ := List.forall_mem_cons.mp exact
    rw [concatenateAfter]
    refine .bind fun value success => .bind fun text read => ?_
    cases text with
    | none => exact .ok trivial
    | some text =>
      refine ih others ?_
      rw [String.toList_append, List.mem_append, not_or]
      exact ⟨exactToo, (here value success).text read⟩

/-- Operators make exact values of exact values. -/
theorem OperatorKind.exact_apply (operator : OperatorKind) : ExactOutcome (operator.apply operands) := by
  cases operator with
  | or | and => exact exact_connectiveAfter _ _
  | not =>
    refine .bind fun _ _ => .bind fun truth _ => ?_
    cases truth <;> exact .ok trivial
  | comparison relation =>
    rw [apply]
    unfold Comparison.apply
    split
    · exact .bind fun _ _ => .bind fun _ _ => .bind fun _ _ => .ok trivial
    · exact .ok trivial
  | addition => exact exact_unlessNull (Value.exact_sum _)
  | concatenation => exact exact_concatenateAfter exact List.not_mem_nil
  | subtraction _ _ => exact exact_unlessNull (Value.exact_difference _)
  | multiplication => exact exact_unlessNull (Value.exact_product _)
  | division _ => exact exact_divideOperands
  | square => exact exact_firstUnlessNull fun _ => .bind fun _ _ => .ok trivial
  | negation =>
    refine .bind fun value _ => ?_
    split
    · exact .double _ _
    · exact value.exact_negate

/-- A choice among exact outcomes is exact. -/
theorem exact_chooseOperand : ExactOutcome (chooseOperand operands) := by
  unfold chooseOperand
  split
  · next condition accepted rejected others =>
    refine .bind fun _ _ => .bind fun truth _ => ?_
    have chosen {operand : Operand} (member : operand ∈ condition :: accepted :: rejected :: others)
        {kind : Kind} : ExactOutcome (operand.outcome >>= Value.coerce kind) :=
      .bind fun value success => (exact operand member value success).coerce kind
    split
    · exact chosen (by simp)
    · exact chosen (by simp)
  · exact .ok trivial

theorem exact_firstValue (kind : Kind) : ExactOutcome (firstValue kind operands) := by
  induction operands with
  | nil => exact .ok trivial
  | cons operand rest ih =>
    obtain ⟨here, others⟩ := List.forall_mem_cons.mp exact
    rw [firstValue]
    refine .bind fun value success => ?_
    split
    · exact ih others
    · exact (here value success).coerce kind

/-- An extreme of exact outcomes is exact. -/
theorem exact_extremeOperand (wanted : Ordering) : ExactOutcome (extremeOperand wanted operands) := by
  have spread (kind : Kind) (values : List Value) (exact : ∀ value ∈ values, value.Exact)
      (best : Option Value) (bestExact : ∀ value ∈ best, value.Exact) :
      ExactOutcome (extremeAfter wanted kind best values) := by
    induction values generalizing best with
    | nil =>
      rw [extremeAfter]
      cases best with
      | none => exact .ok trivial
      | some value => exact .ok (bestExact value rfl)
    | cons value rest ih =>
      obtain ⟨here, others⟩ := List.forall_mem_cons.mp exact
      rw [extremeAfter]
      split
      · exact .ok trivial
      · refine .bind fun coerced success => ?_
        have next : ∀ value ∈ some coerced, value.Exact := fun _ same =>
          Option.some.inj same ▸ here.coerce kind coerced success
        split
        · exact ih others _ next
        · refine .bind fun _ _ => ?_
          split
          · exact ih others _ next
          · exact ih others _ bestExact
  refine .bind fun values success => spread _ values (fun value member => ?_) none (fun _ same => by cases same)
  clear spread
  induction operands generalizing values with
  | nil =>
    obtain rfl := Except.ok.inj success
    exact absurd member List.not_mem_nil
  | cons operand rest ih =>
    obtain ⟨here, others⟩ := List.forall_mem_cons.mp exact
    rw [Operand.values, List.mapM_cons] at success
    obtain ⟨first, evaluated, success⟩ := Except.bind_eq_ok_iff.mp success
    obtain ⟨more, evaluatedToo, success⟩ := Except.bind_eq_ok_iff.mp success
    obtain rfl := Except.ok.inj success
    rcases List.mem_cons.mp member with rfl | later
    · exact here _ evaluated
    · exact ih others more evaluatedToo later

/-- What is computed from a text without quotes is exact if the computation is. -/
theorem exact_ofText {compute : List Char → Except EvalError Value}
    (computes : ∀ text, '"' ∉ text → ExactOutcome (compute text)) : ExactOutcome (ofText operands compute) := by
  refine .bind fun value success => .bind fun text read => ?_
  cases text with
  | none => exact .ok trivial
  | some text => exact computes _ ((exact_firstOutcome exact value success).text read)

/-- Functions make exact values of exact values, if the instant that they know is exact. -/
theorem FunctionKind.exact_apply (function : FunctionKind)
    (whole : ∀ instant, function = .now instant → instant.time.fraction = 0) :
    ExactOutcome (function.apply operands) := by
  cases function with
  | conditional => exact exact_chooseOperand exact
  | isNull => exact .bind fun _ _ => .ok trivial
  | noNull => exact exact_firstValue exact _
  | noZero =>
    refine .bind fun value success => ?_
    split
    · exact .ok trivial
    · exact .ok (exact_firstOutcome exact value success)
  | hexadecimal =>
    refine exact_firstUnlessNull fun value => .bind fun n _ => .ok ?_
    rw [Value.Exact, String.toList_ofList]
    exact n.quote_not_mem_numeral 16
  | squareRoot => exact exact_firstUnlessNull fun _ => .bind fun _ _ => .ok trivial
  | kindName =>
    have names (kind : Kind) : '"' ∉ kind.name.toList := by cases kind <;> decide
    exact .bind fun value _ => .ok (names value.kind)
  | evaluates => exact .ok trivial
  | now instant => exact .ok (whole instant rfl)
  | absolute =>
    refine exact_firstUnlessNull fun value => ?_
    unfold absoluteValue
    split
    · exact .bind fun _ _ => .long _
    · exact .bind fun _ _ => .ok trivial
  | round =>
    refine exact_firstUnlessNull fun value => ?_
    unfold roundedValue
    split
    · exact .ok trivial
    · refine .bind fun x _ => ?_
      split
      · exact .ok trivial
      · exact .error _
  | least | greatest => exact exact_extremeOperand exact _
  | length =>
    rw [apply]
    exact exact_ofText exact fun _ _ => .long _
  | upper | lower =>
    rw [apply]
    refine exact_ofText exact fun text free => .ok ?_
    rw [Value.Exact, String.toList_ofList]
    first
      | exact fun member => free (Text.mem_of_mem_upper (by decide) member)
      | exact fun member => free (Text.mem_of_mem_lower (by decide) member)

end Operators

end Reckoner
