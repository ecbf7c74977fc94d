import Mathlib.Order.Defs.LinearOrder
import Reckoner.Proofs.Typing.Value

/-! # The order of values

Each kind orders its values in a total preorder, and so do the kinds among each other, so the order of
all values is one. Doubles are ordered by their bit patterns: only the two zeros are equal without
being the same. A comparison in a common kind is this order behind the coercion into that kind, with
null, which every kind takes, at the bottom.
-/

namespace Reckoner

open Std

/-! ## Doubles, dates and times -/

namespace Double

instance : TransCmp order := inferInstanceAs (TransCmp (compareOn rank))

end Double

instance : TransCmp Date.order :=
  inferInstanceAs (TransCmp (compareLex (compareOn Date.year)
    (compareLex (compareOn Date.month) (compareOn Date.day))))

instance : TransCmp Time.order :=
  inferInstanceAs (TransCmp (compareLex (compareOn Time.seconds) (compareOn Time.nano)))

namespace DateTime

private instance : TransCmp fun left right : DateTime => left.date.order right.date where
  eq_swap := OrientedCmp.eq_swap
  isLE_trans := TransCmp.isLE_trans

private instance : TransCmp fun left right : DateTime => left.time.order right.time where
  eq_swap := OrientedCmp.eq_swap
  isLE_trans := TransCmp.isLE_trans

instance : TransCmp order :=
  inferInstanceAs (TransCmp (compareLex (fun left right : DateTime => left.date.order right.date)
    fun left right : DateTime => left.time.order right.time))

end DateTime

namespace Value

/-! ## All values -/

/-- Values of different kinds are ordered by their kinds. -/
theorem order_of_rank_ne {left right : Value} (apart : left.rank ≠ right.rank) :
    left.order right = compare left.rank right.rank := by
  cases left <;> cases right <;> first | rfl | exact absurd rfl apart

/-- Values are ordered by the ranks of their kinds first. -/
theorem rank_le_of_isLE {left right : Value} (below : (left.order right).isLE = true) :
    left.rank ≤ right.rank := by
  by_cases same : left.rank = right.rank
  · exact Nat.le_of_eq same
  · rw [order_of_rank_ne same] at below
    exact Nat.isLE_compare.mp below

theorem order_of_rank_lt {left right : Value} (below : left.rank < right.rank) :
    left.order right = .lt := by
  rw [order_of_rank_ne (Nat.ne_of_lt below)]
  exact Nat.compare_eq_lt.mpr below

/-- Values of one kind are ordered as that kind orders them. -/
theorem isLE_trans_of_rank_eq {low middle high : Value} (same : low.rank = middle.rank)
    (sameToo : middle.rank = high.rank) (below : (low.order middle).isLE = true)
    (belowToo : (middle.order high).isLE = true) : (low.order high).isLE = true := by
  cases low <;> cases middle <;> try (cases same; done)
  all_goals cases high <;> try (cases sameToo; done)
  case null.null.null => rfl
  case boolean.boolean.boolean => exact @TransCmp.isLE_trans _ compare _ _ _ _ below belowToo
  case long.long.long => exact @TransCmp.isLE_trans _ compare _ _ _ _ below belowToo
  case double.double.double => exact @TransCmp.isLE_trans _ Double.order _ _ _ _ below belowToo
  case date.date.date => exact @TransCmp.isLE_trans _ Date.order _ _ _ _ below belowToo
  case time.time.time => exact @TransCmp.isLE_trans _ Time.order _ _ _ _ below belowToo
  case dateTime.dateTime.dateTime => exact @TransCmp.isLE_trans _ DateTime.order _ _ _ _ below belowToo
  case string.string.string => exact @TransCmp.isLE_trans _ compare _ _ _ _ below belowToo

/-- The order of two values is turned around with them. -/
theorem order_swap (left right : Value) : left.order right = (right.order left).swap := by
  by_cases same : left.rank = right.rank
  · cases left <;> cases right <;> try (cases same; done)
    case pos.null.null => rfl
    case pos.boolean.boolean => exact @OrientedCmp.eq_swap _ compare _ _ _
    case pos.long.long => exact @OrientedCmp.eq_swap _ compare _ _ _
    case pos.double.double => exact @OrientedCmp.eq_swap _ Double.order _ _ _
    case pos.date.date => exact @OrientedCmp.eq_swap _ Date.order _ _ _
    case pos.time.time => exact @OrientedCmp.eq_swap _ Time.order _ _ _
    case pos.dateTime.dateTime => exact @OrientedCmp.eq_swap _ DateTime.order _ _ _
    case pos.string.string => exact @OrientedCmp.eq_swap _ compare _ _ _
  · rw [order_of_rank_ne same, order_of_rank_ne (Ne.symm same)]
    exact OrientedCmp.eq_swap

instance : TransCmp order where
  eq_swap := order_swap _ _
  isLE_trans {low middle high} below belowToo := by
    have first := rank_le_of_isLE below
    have second := rank_le_of_isLE belowToo
    by_cases same : low.rank = high.rank
    · exact isLE_trans_of_rank_eq (by omega) (by omega) below belowToo
    · rw [order_of_rank_lt (by omega)]
      rfl

/-! ## Comparison in a common kind -/

/-- The value is null or can be coerced into the kind. -/
def Comparable (kind : Kind) (value : Value) : Prop :=
  value = .null ∨ ∃ coerced, value.coerce kind = .ok coerced

theorem Comparable.coerce {kind : Kind} {value : Value} (comparable : Comparable kind value) :
    ∃ coerced, value.coerce kind = .ok coerced := by
  rcases comparable with rfl | known
  · exact ⟨.null, coerce_null kind⟩
  · exact known

/-- A value of a kind that the kind `kind` takes can be compared in it. -/
theorem Fits.comparable {kind source : Kind} {value : Value} (fits : value.Fits source)
    (takes : kind.takes source = true) : Comparable kind value := by
  obtain ⟨coerced, known, -⟩ := fits.coerce takes
  exact .inr ⟨coerced, known⟩

/-- Only null becomes null. -/
theorem eq_null_of_coerce {kind : Kind} {value : Value} (coerced : value.coerce kind = .ok .null) :
    value = .null := by
  cases value <;> first
    | rfl
    | cases kind <;> cases coerced

/-- Null is below every other value. -/
theorem order_null {value : Value} (present : value ≠ .null) : null.order value = .lt := by
  apply order_of_rank_lt
  cases value <;> first
    | exact absurd rfl present
    | exact Nat.zero_lt_succ _

/-- In every kind null is below all other values. -/
theorem orderIn_null_left {kind : Kind} {value : Value} (present : value ≠ .null) :
    orderIn kind .null value = .ok .lt := by
  cases value <;> first
    | exact absurd rfl present
    | rfl

/-- In every kind all other values are above null. -/
theorem orderIn_null_right {kind : Kind} {value : Value} (present : value ≠ .null) :
    orderIn kind value .null = .ok .gt := by
  cases value <;> first
    | exact absurd rfl present
    | rfl

/-- Values other than null are ordered as what they are coerced to. -/
theorem orderIn_of_present {kind : Kind} {left right : Value} (present : left ≠ .null)
    (presentToo : right ≠ .null) : orderIn kind left right = (do
      .ok ((← left.coerce kind).order (← right.coerce kind))) := by
  unfold orderIn
  split
  · exact absurd rfl present
  · exact absurd rfl present
  · exact absurd rfl presentToo
  · rfl

/-- Comparing in a kind is ordering what the values become in that kind. -/
theorem orderIn_of_coerce {kind : Kind} {left right first second : Value}
    (coerced : left.coerce kind = .ok first) (coercedToo : right.coerce kind = .ok second) :
    orderIn kind left right = .ok (first.order second) := by
  by_cases missing : left = .null
  · subst missing
    obtain rfl := Except.ok.inj ((coerce_null kind).symm.trans coerced)
    by_cases missingToo : right = .null
    · subst missingToo
      obtain rfl := Except.ok.inj ((coerce_null kind).symm.trans coercedToo)
      rfl
    · have present : second ≠ .null := fun null => missingToo (eq_null_of_coerce (null ▸ coercedToo))
      rw [orderIn_null_left missingToo, order_null present]
  · have present : first ≠ .null := fun null => missing (eq_null_of_coerce (null ▸ coerced))
    by_cases missingToo : right = .null
    · subst missingToo
      obtain rfl := Except.ok.inj ((coerce_null kind).symm.trans coercedToo)
      rw [orderIn_null_right missing, order_swap, order_null present]
      rfl
    · rw [orderIn_of_present missing missingToo, coerced, coercedToo]
      rfl

section Preorder

variable {kind : Kind} {low middle high : Value}

/-- In each kind a value is equal to itself. -/
theorem orderIn_self (comparable : Comparable kind low) : orderIn kind low low = .ok .eq := by
  obtain ⟨coerced, known⟩ := comparable.coerce
  rw [orderIn_of_coerce known known, @ReflCmp.compare_self _ order _ _]

/-- In each kind the order of two values is turned around with them. -/
theorem orderIn_swap (comparable : Comparable kind low) (comparableToo : Comparable kind middle) :
    ∃ ordering, orderIn kind low middle = .ok ordering ∧
      orderIn kind middle low = .ok ordering.swap := by
  obtain ⟨first, known⟩ := comparable.coerce
  obtain ⟨second, knownToo⟩ := comparableToo.coerce
  refine ⟨first.order second, orderIn_of_coerce known knownToo, ?_⟩
  rw [orderIn_of_coerce knownToo known, order_swap]

/-- In each kind the order of values carries over. -/
theorem orderIn_trans (comparable : Comparable kind low) (comparableToo : Comparable kind middle)
    (comparableLast : Comparable kind high) {below belowToo : Ordering}
    (compared : orderIn kind low middle = .ok below)
    (comparedToo : orderIn kind middle high = .ok belowToo) (atMost : below ≠ .gt)
    (atMostToo : belowToo ≠ .gt) : ∃ ordering, orderIn kind low high = .ok ordering ∧ ordering ≠ .gt := by
  obtain ⟨first, known⟩ := comparable.coerce
  obtain ⟨second, knownToo⟩ := comparableToo.coerce
  obtain ⟨third, knownLast⟩ := comparableLast.coerce
  obtain rfl := Except.ok.inj ((orderIn_of_coerce known knownToo).symm.trans compared)
  obtain rfl := Except.ok.inj ((orderIn_of_coerce knownToo knownLast).symm.trans comparedToo)
  refine ⟨first.order third, orderIn_of_coerce known knownLast, ?_⟩
  apply Ordering.isLE_iff_ne_gt.mp
  apply @TransCmp.isLE_trans _ order
  · exact Ordering.isLE_iff_ne_gt.mpr atMost
  · exact Ordering.isLE_iff_ne_gt.mpr atMostToo

end Preorder

end Value

end Reckoner
