import Reckoner.Proofs.Outcome
import Reckoner.Value.Arithmetic
import Reckoner.Value.Order

/-! # Values of declared kinds

An expression declared to be of a kind may turn out to be null, and otherwise to be a value of that
very kind. A kind that takes another one takes all its values, so coercions along the order of kinds
never fail, and sums and products of numbers fail only by leaving the longs.
-/

namespace Reckoner

namespace Kind

/-- A kind that takes another takes what that one takes. -/
theorem takes_trans {upper middle lower : Kind} (above : upper.takes middle = true)
    (below : middle.takes lower = true) : upper.takes lower = true := by
  revert above below
  cases upper <;> cases middle <;> cases lower <;> decide

/-- The common kind of two takes both. -/
theorem takes_of_join? {left right joined : Kind} (join : join? left right = some joined) :
    joined.takes left = true ∧ joined.takes right = true := by
  revert join
  cases left <;> cases right <;> cases joined <;> decide

/-- The common kind of a list takes every kind of the list. -/
theorem takes_of_joinAll? {kinds : List Kind} {joined : Kind}
    (join : joinAll? kinds = some joined) : ∀ kind ∈ kinds, joined.takes kind = true := by
  have spread (rest : List Kind) (start joined : Kind)
      (fold : rest.foldlM join? start = some joined) :
      joined.takes start = true ∧ ∀ kind ∈ rest, joined.takes kind = true := by
    induction rest generalizing start with
    | nil =>
      obtain rfl := Option.some.inj fold
      exact ⟨takes_self _, nofun⟩
    | cons kind rest ih =>
      rw [List.foldlM_cons] at fold
      obtain ⟨next, step, fold⟩ := Option.bind_eq_some_iff.mp fold
      obtain ⟨above, others⟩ := ih next fold
      obtain ⟨left, right⟩ := takes_of_join? step
      exact ⟨takes_trans above left, List.forall_mem_cons.mpr ⟨takes_trans above right, others⟩⟩
  cases kinds with
  | nil => cases join
  | cons first rest =>
    obtain ⟨above, others⟩ := spread rest first joined join
    exact List.forall_mem_cons.mpr ⟨above, others⟩

theorem joined_eq {kinds : List Kind} {kind : Kind} (join : joinAll? kinds = some kind) :
    joined kinds = kind := by rw [joined, join, Option.getD_some]

theorem takesAll_iff {kind : Kind} {kinds : List Kind} :
    kind.takesAll kinds = true ↔ ∀ source ∈ kinds, kind.takes source = true := List.all_eq_true

/-- Numbers are computed in longs or in doubles. -/
theorem promoted_eq (kinds : List Kind) : promoted kinds = long ∨ promoted kinds = double := by
  unfold promoted
  split
  · exact .inr rfl
  · exact .inl rfl

theorem double_takes_promoted (kinds : List Kind) : double.takes (promoted kinds) = true := by
  rcases promoted_eq kinds with long | double
  · rw [long]; rfl
  · rw [double]; rfl

/-- Numbers are computed in a kind that takes each of them. -/
theorem takes_promoted {kinds : List Kind} (numeric : double.takesAll kinds = true) :
    ∀ kind ∈ kinds, (promoted kinds).takes kind = true := by
  intro kind member
  have below := takesAll_iff.mp numeric kind member
  unfold promoted
  split
  · exact below
  · next noDouble =>
    have other : kind ≠ double := by
      rintro rfl
      exact noDouble (List.contains_iff_mem.mpr member)
    cases kind <;> first | rfl | exact absurd below (by decide) | exact absurd rfl other

end Kind

namespace Value

/-- A value that an expression declared to be of the kind `kind` may have. -/
def Fits (kind : Kind) (value : Value) : Prop := value = .null ∨ value.kind = kind

theorem fits_null (kind : Kind) : Fits kind .null := .inl rfl

/-- A value fits its own kind. -/
theorem fits_kind (value : Value) : Fits value.kind value := .inr rfl

/-- What fits a kind that a truth value takes is a truth value, or null. -/
theorem Fits.boolean {kind : Kind} {value : Value} (fits : value.Fits kind)
    (takes : Kind.boolean.takes kind = true) : value = .null ∨ ∃ truth, value = .boolean truth := by
  rcases fits with rfl | rfl
  · exact .inl rfl
  · cases value <;> first | exact .inl rfl | exact .inr ⟨_, rfl⟩ | exact absurd takes Bool.false_ne_true

/-- What fits a kind that a text takes is a text, or null. -/
theorem Fits.string {kind : Kind} {value : Value} (fits : value.Fits kind)
    (takes : Kind.string.takes kind = true) : value = .null ∨ ∃ text, value = .string text := by
  rcases fits with rfl | rfl
  · exact .inl rfl
  · cases value <;> first | exact .inl rfl | exact .inr ⟨_, rfl⟩ | exact absurd takes Bool.false_ne_true

/-- What fits a kind that a long takes is a long, or null. -/
theorem Fits.long {kind : Kind} {value : Value} (fits : value.Fits kind)
    (takes : Kind.long.takes kind = true) : value = .null ∨ ∃ n, value = .long n := by
  rcases fits with rfl | rfl
  · exact .inl rfl
  · cases value <;> first | exact .inl rfl | exact .inr ⟨_, rfl⟩ | exact absurd takes Bool.false_ne_true

/-- What fits a kind that a double takes is a number, or null. -/
theorem Fits.number {kind : Kind} {value : Value} (fits : value.Fits kind)
    (takes : Kind.double.takes kind = true) :
    value = .null ∨ (∃ n, value = .long n) ∨ ∃ x, value = .double x := by
  rcases fits with rfl | rfl
  · exact .inl rfl
  · cases value <;> first
      | exact .inl rfl
      | exact .inr (.inl ⟨_, rfl⟩)
      | exact .inr (.inr ⟨_, rfl⟩)
      | exact absurd takes Bool.false_ne_true

/-- A kind takes the values of the kinds that it takes, and keeps null apart from all others. -/
theorem Fits.coerce {kind source : Kind} {value : Value} (fits : value.Fits source)
    (takes : kind.takes source = true) :
    ∃ coerced, value.coerce kind = .ok coerced ∧ coerced.Fits kind ∧
      (coerced = .null ↔ value = .null) := by
  rcases fits with rfl | rfl
  · exact ⟨.null, coerce_null kind, fits_null kind, Iff.rfl⟩
  · cases value <;> cases kind <;> first
      | exact absurd takes Bool.false_ne_true
      | exact ⟨_, rfl, .inr rfl, by simp only [reduceCtorEq]⟩
      | exact ⟨_, rfl, .inl rfl, Iff.rfl⟩

/-- A value that fits a kind is its own coercion to it. -/
theorem Fits.coerce_self {kind : Kind} {value : Value} (fits : value.Fits kind) :
    value.coerce kind = .ok value := by
  rcases fits with rfl | rfl
  · exact coerce_null kind
  · exact coerce_kind value

/-- What a value is coerced to fits the kind. -/
theorem fits_of_coerce {kind : Kind} {value coerced : Value} (success : value.coerce kind = .ok coerced) :
    coerced.Fits kind := by
  by_cases takes : kind.takes value.kind = true
  · obtain ⟨other, found, fits, _⟩ := (fits_kind value).coerce takes
    exact Except.ok.inj (found.symm.trans success) ▸ fits
  · have failed : value.coerce kind = .error (.inconvertible value kind) := if_neg takes
    cases failed.symm.trans success

@[simp] theorem asLong_long (n : Long) : (Value.long n).asLong = .ok n := rfl

@[simp] theorem asDouble_long (n : Long) : (Value.long n).asDouble = .ok (Double.ofLong n) := rfl

@[simp] theorem asDouble_double (x : Double) : (Value.double x).asDouble = .ok x := rfl

@[simp] theorem asTruth_null : Value.null.asTruth = .ok none := rfl

@[simp] theorem asTruth_boolean (truth : Bool) : (Value.boolean truth).asTruth = .ok (some truth) := rfl

@[simp] theorem asText_string (text : String) : (Value.string text).asText = .ok (some text) := rfl

end Value

end Reckoner
