import Reckoner.Proofs.Writing.Registered

/-! # Reduced constants read back

A constant that has a value is reduced to a literal, or to something that nothing folds. Either is written,
and what is written has the value of the constant. The least long is the one value that is lost: its text
is a sign in front of a number that is no long.
-/

namespace Reckoner

/-- The least long, which has no opposite. -/
def Long.least : Long := ⟨-9223372036854775808, by decide, by decide⟩

namespace Value

/-- The value, with the one NaN that a literal denotes in place of any other. -/
def canonical : Value → Value
  | .double x => .double (if x.isNaN then Double.nan else x)
  | value => value

/-- What a value is read back as is read back as itself. -/
theorem canonical_canonical (value : Value) : value.canonical.canonical = value.canonical := by
  cases value with
  | double x =>
    by_cases number : x.isNaN = true
    · rw [canonical, if_pos number]
      rfl
    · rw [canonical, if_neg number, canonical, if_neg number]
  | _ => rfl

/-- Exact values but the least long can be written. -/
theorem sayable_canonical {value : Value} (exact : value.Exact) (bounded : value ≠ .long .least) :
    value.canonical.Sayable := by
  cases value with
  | long n =>
    have other : n.val ≠ -9223372036854775808 := fun same => bounded (congrArg _ (Long.ext_val same))
    have lower := n.lower
    have upper := n.upper
    refine Option.isSome_iff_exists.mpr ⟨⟨-n.val, by omega, by omega⟩, ?_⟩
    exact Long.ofInt?_eq_some_iff.mpr rfl
  | double x =>
    intro nan
    by_cases number : x.isNaN = true
    · exact if_pos number
    · rw [if_neg number] at nan
      exact absurd nan number
  | _ => exact exact

/-- What can be written is exact. -/
theorem Sayable.exact {value : Value} (sayable : value.Sayable) : value.Exact := by
  cases value <;> first | exact sayable | exact trivial

end Value

namespace Dialect

/-- Any NaN is written as the one that a literal denotes. -/
theorem valueText_canonical (value : Value) : standard.valueText value.canonical = standard.valueText value := by
  cases value with
  | double x =>
    by_cases number : x.isNaN = true
    · have word {x : Double} (nan : x.isNaN = true) : x.literalText = ['N', 'a', 'N'] := by
        have infinite : x.isFinite = false := by
          rw [Double.isNaN, decide_eq_true_eq] at nan
          rw [Double.isFinite, decide_eq_false_iff_not]
          omega
        have text : EvalError.plainLayout.text x = ['N', 'a', 'N'] := by rw [Layout.text, if_pos nan]
        rw [Double.literalText, text, infinite]
        rfl
      rw [Value.canonical, if_pos number]
      exact congrArg Except.ok ((word (by decide)).trans (word number).symm)
    · rw [Value.canonical, if_neg number]
  | _ => rfl

/-- A value of its declared kind, or null, is written as what it is. -/
theorem literalText_of_fits {kind : Kind} {value : Value} (fits : value.Fits kind) :
    standard.literalText kind value = standard.valueText value := by
  rcases fits with rfl | rfl
  · rw [literalText, declared, Value.coerce_null]
    split <;> rfl
  · exact literalText_kind value

end Dialect

namespace Engine

variable {engine : Engine} {base : Tag}

/-- The constants and the instants of the engine hold nothing that writing loses. -/
structure Overt (engine : Engine) : Prop where
  constant : ∀ item, (engine.constants.nameOf? item).isSome = true → item.value.Exact
  instant : ∀ function instant, (engine.functions.nameOf? function).isSome = true →
    function.kind = .now instant → instant.time.fraction = 0

/-- All parts of an expression that is read are found. -/
theorem Legible.found_of_parse (legible : engine.Legible base) (unmeasured : engine.Unmeasured)
    (overt : engine.Overt) {text : List Char} {tree : Tree} (read : engine.parse text = .ok tree) :
    Tree.All (engine.Found base True) tree := by
  intro part within
  obtain ⟨own, success⟩ := exists_parse_of_within within read
  have named := named_of_parse success
  cases part with
  | literal kind value => exact fun _ => (legible.sayable_of_parse unmeasured success).2.exact
  | constant item => exact ⟨named, fun _ => overt.constant item named⟩
  | input => exact named
  | call function operands => exact ⟨named.1, fun _ instant => overt.instant function instant named.1⟩
  | block => exact trivial
  | operation => exact registered_of_parse legible.operators success

/-- The standard library holds numbers and the instant that it was made at. -/
theorem overt_withVariables {base : Tag} {now : DateTime} {items : List (String × Variable)}
    (whole : now.time.fraction = 0) : (withVariables base now items).Overt := by
  have all {α : Type} [DecidableEq α] (fine : α → Prop) {register : Register α}
      (entries : ∀ entry ∈ register.entries, fine entry.item) {item : α}
      (named : (register.nameOf? item).isSome = true) : fine item := by
    obtain ⟨name, named⟩ := Option.isSome_iff_exists.mp named
    obtain ⟨entry, member, same, _⟩ := Register.exists_entry_of_nameOf? named
    exact same ▸ entries entry member
  rw [withVariables_eq]
  constructor
  · intro item
    refine all (fun item : Constant => item.value.Exact)
      (Register.forall_ofList (fun entry : Entry Constant => entry.item.value.Exact) ?_)
    exact List.forall_mem_cons.mpr ⟨trivial, List.forall_mem_singleton.mpr trivial⟩
  · intro function instant named tells
    have instants : ∀ entry ∈ (Library.functions base now).entries,
        entry.item.kind = .now instant → now = instant := by
      refine Register.forall_ofList
        (fun entry : Entry Function => entry.item.kind = .now instant → now = instant) ?_
      simp only [List.forall_mem_cons, reduceCtorEq, false_implies, FunctionKind.now.injEq, imp_self, true_and]
      exact List.forall_mem_nil _
    exact all (fun function : Function => function.kind = .now instant → now = instant) instants named tells ▸
      whole

/-- A settled expression of formed parts is written, and what is written has its value, or is a NaN where
the value is one. -/
theorem Legible.exists_parse_of_settled (legible : engine.Legible base) (unmeasured : engine.Unmeasured)
    {tree : Tree} {value : Value} (settled : tree.Settled) (formed : Tree.All (engine.Formed base True) tree)
    (fits : value.Fits tree.kind) (bounded : value ≠ .long .least) (success : tree.outcome none = .ok value) :
    ∃ text back result, engine.format tree = .ok text ∧ engine.parse text = .ok back ∧
      back.outcome none = .ok result ∧ result.canonical = value.canonical := by
  rcases settled with ⟨kind, content, rfl⟩ | resists
  · rw [Tree.outcome] at success
    obtain rfl := Except.ok.inj success
    rw [Tree.kind] at fits
    have sayable := Value.sayable_canonical (formed.self.found trivial) bounded
    have signable : Tree.All (engine.Signable base) (.literal content.canonical.kind content.canonical) :=
      Tree.all_of_children ⟨rfl, legible.saysSigned_of_sayable unmeasured sayable⟩ (List.forall_mem_nil _)
    obtain ⟨text, back, written, read, alike⟩ := legible.exists_parse_of_signable signable
    refine ⟨text, back, content.canonical, ?_, read, by rw [alike.outcome, Tree.outcome],
      content.canonical_canonical⟩
    rw [format, legible.dialect, Dialect.literalText_kind, Dialect.valueText_canonical] at written
    rw [format, legible.dialect, Dialect.literalText_of_fits fits, written]
  · obtain ⟨text, back, written, read, alike⟩ := legible.exists_parse_of_signable
      fun part within => by
        have resist := resists part within
        obtain ⟨found, accepted⟩ := formed part within
        cases part with
        | constant => exact found.1
        | call => exact ⟨found.1, accepted.1⟩
        | _ => exact absurd resist Bool.false_ne_true
    exact ⟨text, back, value, written, read, (alike.outcome none).trans success, rfl⟩

/-- What is written for a reduced constant has the value of the constant, any NaN taken for one, unless
that value is the least long. No function may ask whether its operands evaluate, since reduction may find a
value where there was none, and the time must be one of whole seconds, since fractions are not written. -/
theorem outcome_of_parse_reduce {base : Tag} {now : DateTime} {items : List (String × Variable)}
    (identifiers : ∀ entry ∈ items, isIdentifier entry.1 = true)
    (clear : ∀ entry ∈ items, nameKey entry.1.toList ∉ reservedKeys ++ measureKeys)
    (whole : now.time.fraction = 0) {text : List Char} {tree : Tree} {value : Value}
    (read : (withVariables base now items).parse text = .ok tree) (constant : tree.isConstant = true)
    (unasked : ∀ function operands, Tree.Within (.call function operands) tree → function.kind ≠ .evaluates)
    (success : tree.outcome none = .ok value) (bounded : value ≠ .long .least) :
    ∃ written back result,
      (withVariables base now items).format ((withVariables base now items).reduce tree) = .ok written ∧
        (withVariables base now items).parse written = .ok back ∧
        back.outcome none = .ok result ∧ result.canonical = value.canonical := by
  have legible : (withVariables base now items).Legible base := legible_withVariables identifiers
    fun entry member key => clear entry member (List.mem_append_left _ key)
  have unmeasured : (withVariables base now items).Unmeasured := unmeasured_withVariables identifiers clear
  have typed := typed_of_parse (constantsFit_withVariables base now items) read
  have found := legible.found_of_parse unmeasured (overt_withVariables whole) read
  have reduces : Tree.Reduces none ((withVariables base now items).reduce tree) tree :=
    reduce_reduces typed fun part => isPlain_of_isConstant unasked constant
  exact legible.exists_parse_of_settled unmeasured (reduce_settled unasked typed constant success)
    (reduce_forms typed found unasked).formed (reduces.operand.fits value success) bounded
    (reduces.operand.outcome value success)

/-- A negative difference is written as its opposite with a sign, and has its value. -/
theorem outcome_of_parse_reduce_of_difference :
    ∃ tree written back result,
      (withVariables 0 ⟨Date.epoch, Time.midnight⟩ []).parse "Max(3, 5) - 9".toList = .ok tree ∧
        tree.outcome none = .ok (.long ⟨-4, by decide, by decide⟩) ∧
        (withVariables 0 ⟨Date.epoch, Time.midnight⟩ []).format
          ((withVariables 0 ⟨Date.epoch, Time.midnight⟩ []).reduce tree) = .ok written ∧
        (withVariables 0 ⟨Date.epoch, Time.midnight⟩ []).parse written = .ok back ∧
        back.outcome none = .ok result ∧
        result.canonical = (Value.long ⟨-4, by decide, by decide⟩).canonical := by
  have reads : ((withVariables 0 ⟨Date.epoch, Time.midnight⟩ []).parse
      "Max(3, 5) - 9".toList).toOption.map (fun tree => (tree.isConstant, tree.parts.all fun
        | .call function _ => decide (function.kind ≠ .evaluates)
        | _ => true, (tree.outcome none).toOption)) =
      some (true, true, some (.long ⟨-4, by decide, by decide⟩)) := by decide +kernel
  obtain ⟨tree, success, same⟩ := Option.map_eq_some_iff.mp reads
  obtain ⟨constant, same⟩ := Prod.mk.inj same
  obtain ⟨unasked, outcome⟩ := Prod.mk.inj same
  have read := Except.toOption_eq_some_iff.mp success
  have value := Except.toOption_eq_some_iff.mp outcome
  obtain ⟨written, back, result, formatted, readBack, resultToo, alike⟩ :=
    outcome_of_parse_reduce (List.forall_mem_nil _) (List.forall_mem_nil _) rfl read constant
      (fun function operands within =>
        of_decide_eq_true (List.all_eq_true.mp unasked (.call function operands) within.mem_parts))
      value (by decide)
  exact ⟨tree, written, back, result, read, value, formatted, readBack, resultToo, alike⟩

/-- The least long is lost: its text is the sign in front of a number that is no long. -/
theorem exists_lost_kind : ∃ tree written back,
    (standard 0 ⟨Date.epoch, Time.midnight⟩).parse "(-9223372036854775807) - 1".toList = .ok tree ∧
      tree.isConstant = true ∧ tree.outcome none = .ok (.long .least) ∧
      (standard 0 ⟨Date.epoch, Time.midnight⟩).format
        ((standard 0 ⟨Date.epoch, Time.midnight⟩).reduce tree) = .ok written ∧
      (standard 0 ⟨Date.epoch, Time.midnight⟩).parse written = .ok back ∧
      (back.outcome none).map Value.kind = .ok .double := by
  have reads : (((standard 0 ⟨Date.epoch, Time.midnight⟩).parse
      "(-9223372036854775807) - 1".toList).toOption.bind fun tree =>
        ((standard 0 ⟨Date.epoch, Time.midnight⟩).format
          ((standard 0 ⟨Date.epoch, Time.midnight⟩).reduce tree)).toOption.bind fun written =>
            ((standard 0 ⟨Date.epoch, Time.midnight⟩).parse written).toOption.map fun back =>
              (tree.isConstant, (tree.outcome none).toOption,
                ((back.outcome none).map Value.kind).toOption)) =
      some (true, some (.long .least), some .double) := by
    decide +kernel
  obtain ⟨tree, read, reads⟩ := Option.bind_eq_some_iff.mp reads
  obtain ⟨written, formatted, reads⟩ := Option.bind_eq_some_iff.mp reads
  obtain ⟨back, readBack, same⟩ := Option.map_eq_some_iff.mp reads
  obtain ⟨constant, same⟩ := Prod.mk.inj same
  obtain ⟨least, kind⟩ := Prod.mk.inj same
  exact ⟨tree, written, back, Except.toOption_eq_some_iff.mp read, constant,
    Except.toOption_eq_some_iff.mp least, Except.toOption_eq_some_iff.mp formatted,
    Except.toOption_eq_some_iff.mp readBack, Except.toOption_eq_some_iff.mp kind⟩

end Engine

end Reckoner
