import Mathlib.Data.List.Perm.Basic
import Reckoner.Proofs.Expression
import Reckoner.Proofs.Value.Order

/-! # Least and greatest operands

The least or greatest operand is found in one walk from the left: a later operand takes the place of the
one found so far if it stands strictly before it in the wanted order. Since the order of values is a total
preorder, what is left at the end is the first operand that no other one beats, and any order of the
operands leads to an equal one.
-/

namespace Reckoner

open Std

/-- The order in which a function that looks for an extremum wants its result to stand to the others. -/
def FunctionKind.wanted? : FunctionKind → Option Ordering
  | least => some .lt
  | greatest => some .gt
  | _ => none

namespace Value

section Order

variable {wanted : Ordering} {left middle right : Value}

/-- What beats a value beats all that do not beat that value. -/
theorem beats_of_beats_of_unbeaten (directed : wanted ≠ .eq) (beats : left.order middle = wanted)
    (unbeaten : middle.order right ≠ wanted.swap) : left.order right = wanted := by
  cases wanted with
  | eq => exact absurd rfl directed
  | lt => exact TransCmp.lt_of_lt_of_isLE beats (Ordering.isLE_iff_ne_gt.mpr unbeaten)
  | gt => exact TransCmp.gt_of_gt_of_isGE beats (Ordering.isGE_iff_ne_lt.mpr unbeaten)

/-- What a value does not beat beats all that this value beats. -/
theorem beats_of_unbeaten_of_beats (directed : wanted ≠ .eq) (unbeaten : left.order middle ≠ wanted.swap)
    (beats : middle.order right = wanted) : left.order right = wanted := by
  cases wanted with
  | eq => exact absurd rfl directed
  | lt => exact TransCmp.lt_of_isLE_of_lt (Ordering.isLE_iff_ne_gt.mpr unbeaten) beats
  | gt => exact TransCmp.gt_of_isGE_of_gt (Ordering.isGE_iff_ne_lt.mpr unbeaten) beats

theorem swap_ne_of_directed (directed : wanted ≠ .eq) : wanted ≠ wanted.swap := by
  cases wanted <;> first | exact absurd rfl directed | decide

/-- A value does not beat itself. -/
theorem unbeaten_self (directed : wanted ≠ .eq) (value : Value) : value.order value ≠ wanted.swap := by
  rw [@ReflCmp.compare_self _ order _ _]
  cases wanted <;> first | exact absurd rfl directed | decide

end Order

/-- In the kind `kind` the value `best` is what the first of the values becomes that none of them beats in
the order `wanted`. -/
structure IsExtreme (wanted : Ordering) (kind : Kind) (values : List Value) (best : Value) : Prop where
  first : ∃ before value after, values = before ++ value :: after ∧ value.coerce kind = .ok best ∧
    ∀ earlier ∈ before, orderIn kind best earlier = .ok wanted
  unbeaten : ∀ other ∈ values, ∃ ordering, orderIn kind best other = .ok ordering ∧ ordering ≠ wanted.swap

section Walk

variable {wanted : Ordering} {kind : Kind} {value next current best : Value} {rest : List Value}

/-- The best value is one of the kind already. -/
theorem IsExtreme.coerce_self {values : List Value} (extreme : IsExtreme wanted kind values best) :
    best.coerce kind = .ok best := by
  obtain ⟨_, value, _, _, coerced, _⟩ := extreme.first
  exact (fits_of_coerce coerced).coerce_self

/-- A single value is its own extremum. -/
theorem isExtreme_singleton (directed : wanted ≠ .eq) (coerced : value.coerce kind = .ok best) :
    IsExtreme wanted kind [value] best where
  first := ⟨[], value, [], rfl, coerced, List.forall_mem_nil _⟩
  unbeaten other member := by
    rw [List.mem_singleton.mp member, orderIn_of_coerce (fits_of_coerce coerced).coerce_self coerced]
    exact ⟨_, rfl, unbeaten_self directed best⟩

/-- A value in front that the next one beats changes nothing. -/
theorem IsExtreme.cons_beaten (extreme : IsExtreme wanted kind (next :: rest) best) (directed : wanted ≠ .eq)
    (coerced : value.coerce kind = .ok current) {nextCoerced : Value}
    (coercedToo : next.coerce kind = .ok nextCoerced) (beats : nextCoerced.order current = wanted) :
    IsExtreme wanted kind (value :: next :: rest) best := by
  have whole := extreme.coerce_self
  have beaten : orderIn kind best value = .ok wanted := by
    obtain ⟨ordering, compared, unbeaten⟩ := extreme.unbeaten next List.mem_cons_self
    rw [orderIn_of_coerce whole coercedToo] at compared
    obtain rfl := Except.ok.inj compared
    rw [orderIn_of_coerce whole coerced, beats_of_unbeaten_of_beats directed unbeaten beats]
  constructor
  · obtain ⟨before, value, after, split, found, earlier⟩ := extreme.first
    exact ⟨_ :: before, value, after, congrArg _ split, found, List.forall_mem_cons.mpr ⟨beaten, earlier⟩⟩
  · exact List.forall_mem_cons.mpr ⟨⟨_, beaten, swap_ne_of_directed directed⟩, extreme.unbeaten⟩

/-- A value behind the first one that does not beat it changes nothing. -/
theorem IsExtreme.cons_unbeaten (extreme : IsExtreme wanted kind (value :: rest) best) (directed : wanted ≠ .eq)
    (coerced : value.coerce kind = .ok current) {nextCoerced : Value}
    (coercedToo : next.coerce kind = .ok nextCoerced) (fails : nextCoerced.order current ≠ wanted) :
    IsExtreme wanted kind (value :: next :: rest) best := by
  have whole := extreme.coerce_self
  have unbeaten : current.order nextCoerced ≠ wanted.swap := by
    rw [order_swap]
    exact fun same => fails (Ordering.swap_inj.mp same)
  obtain ⟨front, others⟩ := List.forall_mem_cons.mp extreme.unbeaten
  obtain ⟨before, found, after, split, coercedFound, earlier⟩ := extreme.first
  -- either the first value is the best one itself, or the best one stands behind and beats both
  cases before with
  | nil =>
    obtain ⟨rfl, rfl⟩ := List.cons.inj split
    obtain rfl := Except.ok.inj (coerced.symm.trans coercedFound)
    refine ⟨⟨[], _, _, rfl, coerced, List.forall_mem_nil _⟩, ?_⟩
    exact List.forall_mem_cons.mpr ⟨front,
      List.forall_mem_cons.mpr ⟨⟨_, orderIn_of_coerce whole coercedToo, unbeaten⟩, others⟩⟩
  | cons head before =>
    obtain ⟨rfl, rfl⟩ := List.cons.inj split
    obtain ⟨beaten, between⟩ := List.forall_mem_cons.mp earlier
    have beats := Except.ok.inj ((orderIn_of_coerce whole coerced).symm.trans beaten)
    have beatenToo : orderIn kind best next = .ok wanted := by
      rw [orderIn_of_coerce whole coercedToo, beats_of_beats_of_unbeaten directed beats unbeaten]
    refine ⟨⟨_ :: next :: before, found, after, rfl, coercedFound, ?_⟩, ?_⟩
    · exact List.forall_mem_cons.mpr ⟨beaten, List.forall_mem_cons.mpr ⟨beatenToo, between⟩⟩
    · exact List.forall_mem_cons.mpr ⟨front,
        List.forall_mem_cons.mpr ⟨⟨_, beatenToo, swap_ne_of_directed directed⟩, others⟩⟩

/-- The walk begins with the first value if this is present. -/
theorem extremeAfter_first (present : value ≠ .null) (coerced : value.coerce kind = .ok current) :
    extremeAfter wanted kind none (value :: rest) = extremeAfter wanted kind (some current) rest := by
  rw [extremeAfter, if_neg (present ∘ (isNull_iff value).mp), coerced, Except.ok_bind]

/-- One step of the walk: a value that is present takes the place of the best one so far if it beats it. -/
theorem extremeAfter_cons {nextCoerced : Value} (present : next ≠ .null)
    (coerced : next.coerce kind = .ok nextCoerced) (whole : current.coerce kind = .ok current) :
    extremeAfter wanted kind (some current) (next :: rest) =
      extremeAfter wanted kind (some (if nextCoerced.order current = wanted then nextCoerced else current)) rest := by
  rw [extremeAfter, if_neg (present ∘ (isNull_iff next).mp), coerced, Except.ok_bind]
  dsimp only
  rw [orderIn_of_coerce (fits_of_coerce coerced).coerce_self whole, Except.ok_bind]
  split <;> rfl

/-- The walk from a value that is already coerced ends at the extremum of this value and the rest. -/
theorem extremeAfter_isExtreme (directed : wanted ≠ .eq) (coerced : value.coerce kind = .ok current)
    (known : ∀ other ∈ rest, other ≠ .null ∧ Comparable kind other) :
    ∃ best, extremeAfter wanted kind (some current) rest = .ok best ∧ IsExtreme wanted kind (value :: rest) best := by
  induction rest generalizing value current with
  | nil => exact ⟨current, rfl, isExtreme_singleton directed coerced⟩
  | cons next rest ih =>
    obtain ⟨⟨present, comparable⟩, others⟩ := List.forall_mem_cons.mp known
    obtain ⟨nextCoerced, coercedToo⟩ := comparable.coerce
    rw [extremeAfter_cons present coercedToo (fits_of_coerce coerced).coerce_self]
    by_cases beats : nextCoerced.order current = wanted
    · obtain ⟨best, walked, extreme⟩ := ih coercedToo others
      rw [if_pos beats]
      exact ⟨best, walked, extreme.cons_beaten directed coerced coercedToo beats⟩
    · obtain ⟨best, walked, extreme⟩ := ih coerced others
      rw [if_neg beats]
      exact ⟨best, walked, extreme.cons_unbeaten directed coerced coercedToo beats⟩

/-- The walk ends at a null, wherever it stands, as long as the values can be compared. -/
theorem extremeAfter_of_null {best? : Option Value} (whole : ∀ best, best? = some best → best.coerce kind = .ok best)
    {values : List Value} (known : ∀ other ∈ values, Comparable kind other) (null : .null ∈ values) :
    extremeAfter wanted kind best? values = .ok .null := by
  induction values generalizing best? with
  | nil => exact absurd null List.not_mem_nil
  | cons next rest ih =>
    obtain ⟨comparable, others⟩ := List.forall_mem_cons.mp known
    by_cases missing : next = .null
    · rw [missing, extremeAfter]
      rfl
    · have later : .null ∈ rest := (List.mem_cons.mp null).resolve_left (missing ∘ Eq.symm)
      obtain ⟨coerced, success⟩ := comparable.coerce
      have self := (fits_of_coerce success).coerce_self
      cases best? with
      | none =>
        rw [extremeAfter_first missing success]
        exact ih (fun _ same => Option.some.inj same ▸ self) others later
      | some current =>
        rw [extremeAfter_cons missing success (whole current rfl)]
        refine ih (fun _ same => ?_) others later
        rw [← Option.some.inj same]
        split
        · exact self
        · exact whole current rfl

/-- Two extrema of the same values in any two orders are equal in the order of the kind. -/
theorem IsExtreme.orderIn_of_perm {values shuffled : List Value} {other : Value} (directed : wanted ≠ .eq)
    (extreme : IsExtreme wanted kind values best) (extremeToo : IsExtreme wanted kind shuffled other)
    (same : shuffled.Perm values) : orderIn kind other best = .ok .eq := by
  have unbeaten {values : List Value} {best : Value} (extreme : IsExtreme wanted kind values best)
      {value coerced : Value} (member : value ∈ values) (success : value.coerce kind = .ok coerced) :
      best.order coerced ≠ wanted.swap := by
    obtain ⟨ordering, compared, unbeaten⟩ := extreme.unbeaten value member
    rwa [← Except.ok.inj ((orderIn_of_coerce extreme.coerce_self success).symm.trans compared)] at unbeaten
  obtain ⟨before, value, after, split, success, _⟩ := extreme.first
  obtain ⟨beforeToo, valueToo, afterToo, splitToo, successToo, _⟩ := extremeToo.first
  have member : value ∈ values := split ▸ List.mem_append_right before List.mem_cons_self
  have memberToo : valueToo ∈ shuffled := splitToo ▸ List.mem_append_right beforeToo List.mem_cons_self
  have one := unbeaten extreme (same.mem_iff.mp memberToo) successToo
  have two := unbeaten extremeToo (same.mem_iff.mpr member) success
  rw [orderIn_of_coerce extremeToo.coerce_self extreme.coerce_self]
  rw [order_swap] at one
  refine congrArg Except.ok ?_
  revert one two directed
  cases other.order best <;> cases wanted <;> decide

end Walk

end Value

namespace Operand

variable {wanted : Ordering} {operands : List Operand} {found : List Value}

/-- An extremum of values that can be compared is there; it is null exactly if one of them is, and otherwise
the first that no other beats. -/
theorem extremeOperand_spec (directed : wanted ≠ .eq) (present : found ≠ [])
    (evaluated : values operands = .ok found)
    (known : ∀ value ∈ found, Value.Comparable (Kind.promoted (kinds operands)) value) :
    ∃ best, extremeOperand wanted operands = .ok best ∧ (best = .null ↔ .null ∈ found) ∧
      (.null ∉ found → Value.IsExtreme wanted (Kind.promoted (kinds operands)) found best) := by
  rw [extremeOperand, evaluated, Except.ok_bind]
  by_cases null : .null ∈ found
  · refine ⟨.null, Value.extremeAfter_of_null (fun _ absurdity => by cases absurdity) known null, ?_, ?_⟩
    · exact iff_of_true rfl null
    · exact fun absent => absurd null absent
  · cases found with
    | nil => exact absurd rfl present
    | cons first rest =>
      obtain ⟨here, others⟩ := List.forall_mem_cons.mp known
      obtain ⟨coerced, success⟩ := here.coerce
      have nonnull (value : Value) (member : value ∈ first :: rest) : value ≠ .null :=
        fun same => null (same ▸ member)
      obtain ⟨best, walked, extreme⟩ := Value.extremeAfter_isExtreme directed success fun other member =>
        ⟨nonnull other (List.mem_cons_of_mem _ member), others other member⟩
      refine ⟨best, ?_, iff_of_false (fun same => ?_) null, fun _ => extreme⟩
      · rwa [Value.extremeAfter_first (nonnull first List.mem_cons_self) success]
      · obtain ⟨before, value, after, split, becomes, _⟩ := extreme.first
        refine nonnull value (split ▸ List.mem_append_right before List.mem_cons_self) ?_
        exact Value.eq_null_of_coerce (same ▸ becomes)

end Operand

namespace FunctionKind

variable {function : FunctionKind} {wanted : Ordering}

/-- An extremum wants the less or the greater of two values, never equal ones. -/
theorem directed_of_wanted? (extremum : function.wanted? = some wanted) : wanted ≠ .eq := by
  cases function <;> first
    | cases extremum; done
    | obtain rfl := Option.some.inj extremum
      decide

theorem apply_of_wanted? (extremum : function.wanted? = some wanted) (operands : List Operand) :
    function.apply operands = extremeOperand wanted operands := by
  cases function <;> first
    | cases extremum; done
    | obtain rfl := Option.some.inj extremum
      rfl

theorem accepts_of_wanted? (extremum : function.wanted? = some wanted) (kinds : List Kind)
    (fallback? : Option Value) :
    function.accepts kinds fallback? = (!kinds.isEmpty && Kind.takesAll .double kinds) := by
  cases function <;> first
    | cases extremum; done
    | rfl

end FunctionKind

namespace Tree

variable {document : Option Json} {operands : List Tree} {found : List Value} {function : Function}
  {wanted : Ordering}

/-- Operands with values have these values taken together. -/
theorem values_operandsFor
    (evaluated : List.Forall₂ (fun operand value => operand.outcome document = .ok value) operands found) :
    Operand.values (operandsFor document operands) = .ok found := by
  induction evaluated with
  | nil => rfl
  | cons here _ ih =>
    rw [Operand.values] at ih ⊢
    rw [operandsFor, List.mapM_cons, here, Except.ok_bind, ih]
    rfl

/-- The least or greatest of operands whose values are of their declared kinds. -/
theorem exists_extremum (extremum : function.kind.wanted? = some wanted)
    (accepted : function.accepts operands = true)
    (evaluated : List.Forall₂ (fun operand value => operand.outcome document = .ok value ∧ value.Fits operand.kind)
      operands found) :
    ∃ best, (Tree.call function operands).outcome document = .ok best ∧ (best = .null ↔ .null ∈ found) ∧
      (.null ∉ found → Value.IsExtreme wanted (Kind.promoted (kinds operands)) found best) := by
  rw [Function.accepts, FunctionKind.accepts_of_wanted? extremum, Bool.and_eq_true] at accepted
  obtain ⟨present, numeric⟩ := accepted
  have takes := Kind.takes_promoted numeric
  rw [outcome, FunctionKind.apply_of_wanted? extremum, ← kinds_operandsFor document operands]
  refine Operand.extremeOperand_spec (FunctionKind.directed_of_wanted? extremum) ?_
    (values_operandsFor (evaluated.imp fun _ _ => And.left)) ?_
  · rintro rfl
    cases evaluated
    cases present
  · intro value member
    obtain ⟨operand, inside, _, fits⟩ := exists_of_forall₂ evaluated member
    rw [kinds_operandsFor]
    exact fits.comparable (takes _ (by rw [kinds_eq_map]; exact List.mem_map_of_mem inside))

theorem kinds_perm {shuffled : List Tree} (same : shuffled.Perm operands) : (kinds shuffled).Perm (kinds operands) := by
  rw [kinds_eq_map, kinds_eq_map]
  exact same.map kind

/-- An extremum accepts its operands in any order. -/
theorem accepts_of_perm {shuffled : List Tree} (extremum : function.kind.wanted? = some wanted)
    (same : shuffled.Perm operands) : function.accepts shuffled = function.accepts operands := by
  have same := kinds_perm same
  rw [Function.accepts, Function.accepts, FunctionKind.accepts_of_wanted? extremum,
    FunctionKind.accepts_of_wanted? extremum, same.isEmpty_eq, Kind.takesAll, Kind.takesAll, same.all_eq]

/-- The least and the greatest of operands whose values are of their declared kinds have a value. It is null
exactly if an operand is; otherwise it is, in the numeric kind of the operands, the first one that no other
operand beats. The operands in another order have a result that is equal in the order of that kind. -/
theorem extremum_first_unbeaten (extremum : function.kind.wanted? = some wanted)
    (accepted : function.accepts operands = true)
    (evaluated : List.Forall₂ (fun operand value => operand.outcome document = .ok value ∧ value.Fits operand.kind)
      operands found) :
    ∃ best, (Tree.call function operands).outcome document = .ok best ∧ (best = .null ↔ .null ∈ found) ∧
      (.null ∉ found → Value.IsExtreme wanted (Kind.promoted (kinds operands)) found best) ∧
      ∀ shuffled, shuffled.Perm operands → ∃ other, (Tree.call function shuffled).outcome document = .ok other ∧
        Value.orderIn (Kind.promoted (kinds operands)) other best = .ok .eq := by
  obtain ⟨best, success, null, extreme⟩ := exists_extremum extremum accepted evaluated
  refine ⟨best, success, null, extreme, fun shuffled same => ?_⟩
  obtain ⟨foundToo, evaluatedToo, sameToo⟩ := List.perm_comp_forall₂ same evaluated
  obtain ⟨other, successToo, nullToo, extremeToo⟩ :=
    exists_extremum extremum ((accepts_of_perm extremum same).trans accepted) evaluatedToo
  have kind : Kind.promoted (kinds shuffled) = Kind.promoted (kinds operands) := by
    rw [Kind.promoted, Kind.promoted, (kinds_perm same).contains_eq]
  refine ⟨other, successToo, ?_⟩
  by_cases missing : .null ∈ found
  · rw [null.mpr missing, nullToo.mpr (sameToo.mem_iff.mpr missing)]
    rfl
  · rw [kind] at extremeToo
    exact (extreme missing).orderIn_of_perm (FunctionKind.directed_of_wanted? extremum)
      (extremeToo (missing ∘ sameToo.mem_iff.mp)) sameToo

/-- The two zeros, one of them a long: either is the greatest where it stands first. -/
theorem extremum_first_unbeaten_of_zeros :
    let zero : Tree := .literal .long (.long 0)
    let negative : Tree := .literal .double (.double Double.zero.neg)
    ∃ best, (Tree.call ⟨0, .greatest⟩ [zero, negative]).outcome none = .ok best ∧ best ≠ .null ∧
      Value.IsExtreme .gt .double [.long 0, .double Double.zero.neg] best ∧
      ∃ other, (Tree.call ⟨0, .greatest⟩ [negative, zero]).outcome none = .ok other ∧
        Value.orderIn .double other best = .ok .eq := by
  intro zero negative
  obtain ⟨best, success, null, extreme, shuffles⟩ := @extremum_first_unbeaten none [zero, negative]
    [.long 0, .double Double.zero.neg] ⟨0, .greatest⟩ .gt rfl rfl (.cons ⟨rfl, .inr rfl⟩ (.cons ⟨rfl, .inr rfl⟩ .nil))
  have absent : Value.null ∉ [.long 0, .double Double.zero.neg] := by decide
  exact ⟨best, success, absent ∘ null.mp, extreme absent, shuffles [negative, zero] (.swap ..)⟩

end Tree

end Reckoner
