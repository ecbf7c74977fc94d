import Reckoner.Proofs.Value.Order
import Reckoner.Tree.Evaluation

/-! # The six comparisons

Two expressions that go together are ordered in their common kind, and the six comparisons of the two,
in either direction, are six views of that one order. The exception is a literal that is declared to
be of another kind than its value: such a value may not become one of the common kind, and then none
of the comparisons has a value.
-/

namespace Reckoner

namespace Kind

/-- The common kind of two does not depend on their order. -/
theorem joined_pair_comm {left right : Kind} (join : (joinAll? [left, right]).isSome = true) :
    joined [right, left] = joined [left, right] := by
  revert join
  cases left <;> cases right <;> decide

/-- The common kind of a list takes all of the list. -/
theorem takes_of_joined {kinds : List Kind} (join : (joinAll? kinds).isSome = true) :
    ∀ kind ∈ kinds, (joined kinds).takes kind = true := by
  obtain ⟨kind, found⟩ := Option.isSome_iff_exists.mp join
  rw [joined_eq found]
  exact takes_of_joinAll? found

end Kind

namespace Value

/-- The two values are ordered in the kind: a null operand is put below any other unseen. -/
def Ordered (kind : Kind) (left right : Value) : Prop :=
  left = .null ∨ right = .null ∨ (Comparable kind left ∧ Comparable kind right)

/-- Ordered values are compared in both directions, with opposite results. -/
theorem Ordered.orderIn {kind : Kind} {left right : Value} (ordered : Ordered kind left right) :
    ∃ ordering, orderIn kind left right = .ok ordering ∧
      orderIn kind right left = .ok ordering.swap := by
  by_cases missing : left = .null
  · subst missing
    by_cases missingToo : right = .null
    · subst missingToo
      exact ⟨.eq, rfl, rfl⟩
    · exact ⟨.lt, orderIn_null_left missingToo, orderIn_null_right missingToo⟩
  · by_cases missingToo : right = .null
    · subst missingToo
      exact ⟨.gt, orderIn_null_right missing, orderIn_null_left missing⟩
    · rcases ordered with absurdity | absurdity | ⟨comparable, comparableToo⟩
      · exact absurd absurdity missing
      · exact absurd absurdity missingToo
      · exact orderIn_swap comparable comparableToo

/-- A failed coercion reports the value and the kind. -/
theorem coerce_eq_error {kind : Kind} {value : Value} {error : EvalError}
    (failure : value.coerce kind = .error error) : error = .inconvertible value kind := by
  unfold coerce convert at failure
  split at failure
  · split at failure
    · cases failure
    · cases failure
    · cases failure
    · cases failure
    · split at failure
      · cases failure
      · exact (Except.error.inj failure).symm
  · exact (Except.error.inj failure).symm

/-- Values that are not ordered cannot be compared: one of them does not become one of the kind. -/
theorem orderIn_of_not_ordered {kind : Kind} {left right : Value}
    (unordered : ¬ Ordered kind left right) :
    ∃ value, (value = left ∨ value = right) ∧
      orderIn kind left right = .error (.inconvertible value kind) := by
  have present : left ≠ .null := fun missing => unordered (.inl missing)
  have presentToo : right ≠ .null := fun missing => unordered (.inr (.inl missing))
  rw [orderIn_of_present present presentToo]
  cases first : left.coerce kind with
  | error error =>
    rw [Except.error_bind, coerce_eq_error first]
    exact ⟨left, .inl rfl, rfl⟩
  | ok coerced =>
    cases second : right.coerce kind with
    | error error =>
      rw [Except.ok_bind, Except.error_bind, coerce_eq_error second]
      exact ⟨right, .inr rfl, rfl⟩
    | ok coercedToo =>
      exact absurd (.inr (.inr ⟨.inr ⟨_, first⟩, .inr ⟨_, second⟩⟩)) unordered

end Value

namespace Tree

/-- The comparison of two expressions by an operator with this tag. -/
def compared (relation : Comparison) (tag : Tag) (left right : Tree) : Tree :=
  .operation ⟨tag, .comparison relation⟩ [left, right]

def commonKind (left right : Tree) : Kind := Kind.joined [left.kind, right.kind]

/-- The comparisons of two expressions, whatever the tags of their operators, are views of one order:
the first expression is less, equal or greater, and the rest follows. -/
def InOneOrder (document : Option Json) (left right : Tree) : Prop :=
  ∃ less equal greater : Bool, [less, equal, greater].count true = 1 ∧ ∀ tag,
    (compared .less tag left right).outcome document = .ok (.boolean less) ∧
    (compared .equal tag left right).outcome document = .ok (.boolean equal) ∧
    (compared .greater tag left right).outcome document = .ok (.boolean greater) ∧
    (compared .notEqual tag left right).outcome document = .ok (.boolean (!equal)) ∧
    (compared .lessOrEqual tag left right).outcome document = .ok (.boolean (!greater)) ∧
    (compared .greaterOrEqual tag left right).outcome document = .ok (.boolean (!less)) ∧
    (compared .less tag right left).outcome document = .ok (.boolean greater) ∧
    (compared .equal tag right left).outcome document = .ok (.boolean equal) ∧
    (compared .greater tag right left).outcome document = .ok (.boolean less)

section Outcome

variable {document : Option Json} {left right : Tree} {first second : Value} {relation : Comparison}
  {tag : Tag}

/-- The two sides of a comparison may change places without another common kind. -/
theorem commonKind_comm (accepted : Operator.accepts ⟨tag, .comparison relation⟩ [left, right] = true) :
    commonKind right left = commonKind left right := Kind.joined_pair_comm accepted

/-- Values of the declared kinds are ordered in the common kind. -/
theorem ordered_of_fits (accepted : Operator.accepts ⟨tag, .comparison relation⟩ [left, right] = true)
    (fits : first.Fits left.kind) (fitsToo : second.Fits right.kind) :
    Value.Ordered (commonKind left right) first second := by
  have takes := Kind.takes_of_joined accepted
  refine .inr (.inr ⟨fits.comparable (takes _ ?_), fitsToo.comparable (takes _ ?_)⟩)
  · exact List.mem_cons_self
  · exact List.mem_cons_of_mem _ List.mem_cons_self

/-- A comparison of values holds or does not hold of their order in the common kind. -/
theorem outcome_compared (success : left.outcome document = .ok first)
    (successToo : right.outcome document = .ok second) (relation : Comparison) (tag : Tag) :
    (compared relation tag left right).outcome document =
      (Value.orderIn (commonKind left right) first second).map
        fun ordering => .boolean (relation.holds ordering) := by
  simp only [compared, outcome, operandsFor, OperatorKind.apply, Comparison.apply, success, successToo,
    Except.ok_bind]
  change Value.orderIn (commonKind left right) first second >>= _ = _
  cases Value.orderIn (commonKind left right) first second <;> rfl

/-- Comparisons of ordered values agree with one order. -/
theorem inOneOrder_of_ordered
    (accepted : Operator.accepts ⟨tag, .comparison relation⟩ [left, right] = true)
    (success : left.outcome document = .ok first) (successToo : right.outcome document = .ok second)
    (ordered : Value.Ordered (commonKind left right) first second) :
    InOneOrder document left right := by
  obtain ⟨ordering, forward, backward⟩ := ordered.orderIn
  have ahead (relation : Comparison) (tag : Tag) :
      (compared relation tag left right).outcome document =
        .ok (.boolean (relation.holds ordering)) := by
    rw [outcome_compared success successToo, forward]
    rfl
  have back (relation : Comparison) (tag : Tag) :
      (compared relation tag right left).outcome document =
        .ok (.boolean (relation.holds ordering.swap)) := by
    rw [outcome_compared successToo success, commonKind_comm accepted, backward]
    rfl
  refine ⟨ordering == .lt, ordering == .eq, ordering == .gt, ?_, fun tag => ?_⟩
  · cases ordering <;> rfl
  · simp only [ahead, back]
    cases ordering <;> simp [Comparison.holds]

/-- What is not ordered cannot be compared in any way. -/
theorem outcome_compared_of_not_ordered (success : left.outcome document = .ok first)
    (successToo : right.outcome document = .ok second)
    (unordered : ¬ Value.Ordered (commonKind left right) first second) :
    ∃ value, (value = first ∨ value = second) ∧ ∀ relation tag,
      (compared relation tag left right).outcome document =
        .error (.inconvertible value (commonKind left right)) := by
  obtain ⟨value, which, failure⟩ := Value.orderIn_of_not_ordered unordered
  refine ⟨value, which, fun relation tag => ?_⟩
  rw [outcome_compared success successToo, failure]
  rfl

end Outcome

/-- Comparing in a kind is a total preorder with null at the bottom on the values that can become ones
of that kind. So the six comparisons of two expressions are in one order, unless one of two values that
are not null cannot become one of the common kind, which no value of its declared kind does; then all
six fail. -/
theorem compared_in_one_order :
    (∀ (kind : Kind) (low middle high : Value), Value.Comparable kind low →
      Value.Comparable kind middle → Value.Comparable kind high →
      Value.orderIn kind low low = .ok .eq ∧
      (∃ ordering, Value.orderIn kind low middle = .ok ordering ∧
        Value.orderIn kind middle low = .ok ordering.swap) ∧
      (low ≠ .null → Value.orderIn kind .null low = .ok .lt) ∧
      ∀ below belowToo, Value.orderIn kind low middle = .ok below →
        Value.orderIn kind middle high = .ok belowToo → below ≠ .gt → belowToo ≠ .gt →
        ∃ ordering, Value.orderIn kind low high = .ok ordering ∧ ordering ≠ .gt) ∧
    ∀ (document : Option Json) (left right : Tree) (first second : Value) (relation : Comparison)
      (tag : Tag), Operator.accepts ⟨tag, .comparison relation⟩ [left, right] = true →
      left.outcome document = .ok first → right.outcome document = .ok second →
      (first.Fits left.kind → second.Fits right.kind →
        Value.Ordered (commonKind left right) first second) ∧
      (Value.Ordered (commonKind left right) first second → InOneOrder document left right) ∧
      (¬ Value.Ordered (commonKind left right) first second →
        ∃ value, (value = first ∨ value = second) ∧ ∀ relation tag,
          (compared relation tag left right).outcome document =
            .error (.inconvertible value (commonKind left right))) := by
  constructor
  · intro kind low middle high comparable comparableToo comparableLast
    refine ⟨Value.orderIn_self comparable, Value.orderIn_swap comparable comparableToo,
      Value.orderIn_null_left, ?_⟩
    intro below belowToo compared comparedToo atMost atMostToo
    exact Value.orderIn_trans comparable comparableToo comparableLast compared comparedToo atMost
      atMostToo
  · intro document left right first second relation tag accepted success successToo
    refine ⟨ordered_of_fits accepted, ?_, ?_⟩
    · exact inOneOrder_of_ordered accepted success successToo
    · exact outcome_compared_of_not_ordered success successToo

/-- A negative NaN and a long in Doubles, and the comparison of a long with a NaN. -/
theorem compared_in_one_order_of_long :
    (∃ ordering, Value.orderIn .double (.double Double.nan.neg) (.long 1) = .ok ordering ∧
      Value.orderIn .double (.long 1) (.double Double.nan.neg) = .ok ordering.swap) ∧
      InOneOrder none (.literal .long (.long 1)) (.literal .double (.double Double.nan)) := by
  constructor
  · exact (compared_in_one_order.1 .double (.double Double.nan.neg) (.long 1) .null
      (.inr ⟨_, rfl⟩) (.inr ⟨_, rfl⟩) (.inl rfl)).2.1
  · obtain ⟨fits, ordered, -⟩ := compared_in_one_order.2 none (.literal .long (.long 1))
      (.literal .double (.double Double.nan)) _ _ .less 0 rfl rfl rfl
    exact ordered (fits (.inr rfl) (.inr rfl))

/-- Two literals declared Long, one of which is a text: no comparison of the two has a value. -/
theorem exists_incomparable :
    ∃ left right : Tree, (∀ relation tag,
        Operator.accepts ⟨tag, .comparison relation⟩ [left, right] = true) ∧
      (∃ first second, left.outcome none = .ok first ∧ right.outcome none = .ok second) ∧
      ∀ relation tag truth, (compared relation tag left right).outcome none ≠ .ok (.boolean truth) := by
  refine ⟨.literal .long (.string "a"), .literal .long (.long 1), fun _ _ => rfl,
    ⟨_, _, rfl, rfl⟩, fun relation tag truth success => ?_⟩
  cases success

end Tree

end Reckoner
