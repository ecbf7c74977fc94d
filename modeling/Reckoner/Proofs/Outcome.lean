import Mathlib.Data.List.Basic

/-! # Steps that may fail

A chain of steps succeeds exactly if each of its steps does, and fails with the failure of the first
step that does not. Stated once here, so that evaluation can be taken apart step by step.
-/

namespace Reckoner

namespace Except

variable {ε α β : Type}

@[simp] theorem ok_bind (value : α) (next : α → Except ε β) :
    (Except.ok value >>= next) = next value := rfl

@[simp] theorem error_bind (error : ε) (next : α → Except ε β) :
    ((Except.error error : Except ε α) >>= next) = .error error := rfl

@[simp] theorem map_ok (change : α → β) (value : α) :
    (Except.ok value : Except ε α).map change = .ok (change value) := rfl

@[simp] theorem map_error (change : α → β) (error : ε) :
    (Except.error error : Except ε α).map change = .error error := rfl

theorem ok_ne_error (value : α) (error : ε) : (Except.ok value : Except ε α) ≠ .error error := by
  intro same
  cases same

/-- A chain succeeds if its first step does and the rest succeeds with the value of that. -/
theorem bind_eq_ok_iff {first : Except ε α} {next : α → Except ε β} {result : β} :
    first >>= next = .ok result ↔ ∃ value, first = .ok value ∧ next value = .ok result := by
  cases first with
  | error error => simp only [error_bind, reduceCtorEq, false_and, exists_false]
  | ok value => simp only [ok_bind, Except.ok.injEq, exists_eq_left']

/-- A chain fails in its first step, or in the rest with the value of the first. -/
theorem bind_eq_error_iff {first : Except ε α} {next : α → Except ε β} {error : ε} :
    first >>= next = .error error ↔
      first = .error error ∨ ∃ value, first = .ok value ∧ next value = .error error := by
  cases first with
  | error other =>
    simp only [error_bind, Except.error.injEq, reduceCtorEq, false_and, exists_false, or_false]
  | ok value => simp only [ok_bind, reduceCtorEq, Except.ok.injEq, exists_eq_left', false_or]

/-- Steps that agree on the value of the first one make the same chain. -/
theorem bind_eq_bind {first : Except ε α} {next nextToo : α → Except ε β}
    (same : ∀ value, first = .ok value → next value = nextToo value) :
    first >>= next = first >>= nextToo := by
  cases first with
  | error error => rfl
  | ok value => exact same value rfl

theorem map_eq_ok_iff {first : Except ε α} {change : α → β} {result : β} :
    first.map change = .ok result ↔ ∃ value, first = .ok value ∧ change value = result := by
  cases first with
  | error error => simp only [map_error, reduceCtorEq, false_and, exists_false]
  | ok value => simp only [map_ok, Except.ok.injEq, exists_eq_left']

theorem map_eq_error_iff {first : Except ε α} {change : α → β} {error : ε} :
    first.map change = .error error ↔ first = .error error := by
  cases first with
  | error other => simp only [map_error, Except.error.injEq]
  | ok value => simp only [map_ok, reduceCtorEq]

theorem toOption_eq_some_iff {outcome : Except ε α} {value : α} :
    outcome.toOption = some value ↔ outcome = .ok value := by
  cases outcome with
  | error error => simp only [Except.toOption, reduceCtorEq]
  | ok other => simp only [Except.toOption, Option.some.injEq, Except.ok.injEq]

/-- The outcome has the property `good` if there is one, and any failure is `allowed`. -/
def Yields (good : α → Prop) (allowed : ε → Prop) : Except ε α → Prop
  | .ok value => good value
  | .error error => allowed error

/-- A chain yields what the rest yields from every value that the first step may yield. -/
theorem Yields.bind {good : α → Prop} {goodNext : β → Prop} {allowed : ε → Prop}
    {first : Except ε α} {next : α → Except ε β} (yields : Yields good allowed first)
    (step : ∀ value, first = .ok value → good value → Yields goodNext allowed (next value)) :
    Yields goodNext allowed (first >>= next) := by
  cases first with
  | error error => exact yields
  | ok value => exact step value rfl yields

theorem Yields.map {good : α → Prop} {goodNext : β → Prop} {allowed : ε → Prop}
    {first : Except ε α} {change : α → β} (yields : Yields good allowed first)
    (step : ∀ value, good value → goodNext (change value)) :
    Yields goodNext allowed (first.map change) := by
  cases first with
  | error error => exact yields
  | ok value => exact step value yields

/-- What is yielded may be weakened, in the values as in the failures. -/
theorem Yields.imp {good goodToo : α → Prop} {allowed allowedToo : ε → Prop}
    {outcome : Except ε α} (yields : Yields good allowed outcome)
    (results : ∀ value, good value → goodToo value)
    (failures : ∀ error, allowed error → allowedToo error) : Yields goodToo allowedToo outcome := by
  cases outcome with
  | error error => exact failures error yields
  | ok value => exact results value yields

/-- A list of steps yields a list of what the steps yield. -/
theorem Yields.mapM {γ : Type} {good : α → Prop} {allowed : ε → Prop} {items : List γ}
    {step : γ → Except ε α} (yields : ∀ item ∈ items, Yields good allowed (step item)) :
    Yields (fun values => ∀ value ∈ values, good value) allowed (items.mapM step) := by
  induction items with
  | nil => exact nofun
  | cons item rest ih =>
    rw [List.mapM_cons]
    obtain ⟨here, others⟩ := List.forall_mem_cons.mp yields
    exact here.bind fun value _ fine => (ih others).bind fun values _ rest =>
      List.forall_mem_cons.mpr ⟨fine, rest⟩

end Except

end Reckoner
