import Reckoner.Proofs.Writing.Name
import Reckoner.Settings.Basic

/-! # Declared variables within reach

A variable that the settings declare is reached by its name unless something else stands in front of it. A
name between the delimiters of a block reads as a block, the names of the constants read as constants, and
of several declarations whose names differ in case or blanks only the last one counts. There is nothing else
in the way: the name of any other variable reads as that variable, be it an operation or a literal otherwise.
-/

namespace Reckoner

/-- The constants are found under two names and no others. -/
theorem Library.find?_constants_eq_none_iff {base : Tag} {text : List Char} :
    (Library.constants base).find? text = none ↔ nameKey text ∉ Engine.constantKeys := by
  have keys : nameKey "E".toList = ['e'] ∧ nameKey "PI".toList = ['p', 'i'] := by decide
  rw [constants, Register.ofList, List.foldl_cons, List.foldl_cons, List.foldl_nil, Register.find?_insert,
    Register.find?_insert, keys.1, keys.2, Engine.constantKeys]
  split
  · next same => simp [← same]
  · next other =>
    split
    · next same => simp [← same]
    · next otherToo => simp [Ne.symm other, Ne.symm otherToo, Register.find?, Register.empty]

/-- The declaration that counts for a text, the last one of those that it names. -/
def VariableSetting.latest? (declared : List VariableSetting) (text : List Char) :
    Option VariableSetting :=
  declared.reverse.find? fun setting => nameKey setting.name.toList == nameKey text

namespace Settings

/-- Settings describe an engine if their dialect can be used and no variable goes without a name. -/
theorem exists_engine {settings : Settings} (usable : settings.dialect.flaw? = none)
    (named : ∀ setting ∈ settings.inputs, Dialect.isBlankText setting.name = false) (base : Tag)
    (now : DateTime) : ∃ engine, settings.engine base now = .ok engine := by
  have spread (inputs : List VariableSetting)
      (named : ∀ setting ∈ inputs, Dialect.isBlankText setting.name = false) (tag : Tag) (engine : Engine) :
      ∃ extended, register tag engine inputs = .ok extended := by
    induction inputs generalizing tag engine with
    | nil => exact ⟨engine, rfl⟩
    | cons setting rest ih =>
      obtain ⟨here, others⟩ := List.forall_mem_cons.mp named
      rw [register, here]
      exact ih others _ _
  have checked : settings.dialect.checked = .ok settings.dialect := by rw [Dialect.checked, usable]
  rw [Settings.engine, checked]
  exact spread settings.inputs named _ _

/-- Declared variables are found by the declaration that counts, and nothing but the variables changes. -/
theorem find?_of_register {inputs : List VariableSetting} {tag : Tag} {engine extended : Engine}
    (built : register tag engine inputs = .ok extended) :
    extended.dialect = engine.dialect ∧ extended.constants = engine.constants ∧
      ∀ text, match VariableSetting.latest? inputs text with
        | some latest => ∃ tag, extended.inputs.find? text = some ⟨tag, latest.pointer, latest.kind⟩
        | none => extended.inputs.find? text = engine.inputs.find? text := by
  induction inputs generalizing tag engine with
  | nil =>
    obtain rfl := Except.ok.inj built
    exact ⟨rfl, rfl, fun _ => rfl⟩
  | cons setting rest ih =>
    rw [register] at built
    split at built
    · cases built
    · obtain ⟨dialect, constants, found⟩ := ih built
      refine ⟨dialect, constants, fun text => ?_⟩
      have here := found text
      rw [VariableSetting.latest?, List.reverse_cons, List.find?_append, ← VariableSetting.latest?]
      cases later : VariableSetting.latest? rest text with
      | some latest =>
        rw [later] at here
        exact here
      | none =>
        rw [later] at here
        rw [Option.none_or, List.find?_singleton]
        dsimp only at here
        rw [Engine.addVariable, Register.find?_insert] at here
        by_cases same : nameKey setting.name.toList = nameKey text
        · rw [if_pos same] at here
          rw [if_pos (beq_iff_eq.mpr same)]
          exact ⟨tag, here⟩
        · rw [if_neg same] at here
          rw [if_neg (beq_eq_false_iff_ne.mpr same ▸ Bool.false_ne_true)]
          exact here

end Settings

namespace Engine

variable {engine : Engine} {text : List Char} {item : Variable}

/-- A text reads as a variable if it is in no block, names no constant, and the variable is found under it. -/
theorem parse_eq_input_iff :
    engine.parse text = .ok (.input item) ↔
      engine.dialect.enclosed? engine.dialect.blockOpen engine.dialect.blockClose (Text.trim text) = none ∧
        engine.constants.find? text = none ∧ engine.inputs.find? text = some item := by
  have named : engine.named? (Text.trim text) = some (.input item) ↔
      engine.constants.find? text = none ∧ engine.inputs.find? text = some item := by
    rw [named?, Register.find?_trim, Register.find?_trim]
    cases engine.constants.find? text <;> simp
  rw [← named]
  constructor
  · intro read
    have bare := bare_of_parse read fun _ other => by cases other
    have makes := makes_of_parse read
    generalize whole : Tree.input item = tree at makes
    cases makes with
    | name found => exact ⟨bare, whole ▸ found⟩
    | _ => cases whole
  · rintro ⟨bare, found⟩
    exact parse_name bare found

end Engine

namespace Settings

/-- The name of a declared variable reads as a variable at its pointer and of its kind if and only if it is
no block, not the name of a constant, and the declaration that counts for it has this pointer and this kind. -/
theorem parse_name_iff {settings : Settings} {base : Tag} {now : DateTime} {engine : Engine}
    (built : settings.engine base now = .ok engine) {setting : VariableSetting}
    (declared : setting ∈ settings.inputs) :
    (∃ tag, engine.parse setting.name.toList = .ok (.input ⟨tag, setting.pointer, setting.kind⟩)) ↔
      settings.dialect.enclosed? settings.dialect.blockOpen settings.dialect.blockClose
          (Text.trim setting.name.toList) = none ∧
        nameKey setting.name.toList ∉ Engine.constantKeys ∧
        ∃ latest, VariableSetting.latest? settings.inputs setting.name.toList = some latest ∧
          latest.pointer = setting.pointer ∧ latest.kind = setting.kind := by
  obtain ⟨dialect, usable, built⟩ := Except.bind_eq_ok_iff.mp built
  have same : dialect = settings.dialect := by
    unfold Dialect.checked at usable
    split at usable
    · cases usable
    · exact (Except.ok.inj usable).symm
  obtain ⟨theDialect, theConstants, found⟩ := find?_of_register built
  have here := found setting.name.toList
  simp only [Engine.parse_eq_input_iff, theDialect, theConstants, same, exists_and_left]
  refine and_congr_right fun _ => and_congr Library.find?_constants_eq_none_iff ?_
  cases counts : VariableSetting.latest? settings.inputs setting.name.toList with
  | none =>
    rw [VariableSetting.latest?, List.find?_eq_none] at counts
    exact absurd BEq.rfl (counts setting (List.mem_reverse.mpr declared))
  | some latest =>
    rw [counts] at here
    obtain ⟨tag, here⟩ := here
    simp only [here, Option.some.injEq, Variable.mk.injEq, exists_and_right, exists_eq_left', exists_eq',
      true_and]

/-- A variable whose name spells a sum is reached by it. -/
theorem parse_name_of_sum : ∃ engine,
    Settings.engine ⟨Dialect.standard, [⟨"1 + 2", "/sum", .long⟩]⟩ 0 ⟨Date.epoch, Time.midnight⟩ = .ok engine ∧
      ∃ tag, engine.parse "1 + 2".toList = .ok (.input ⟨tag, "/sum", .long⟩) := by
  obtain ⟨engine, built⟩ := @exists_engine ⟨Dialect.standard, [⟨"1 + 2", "/sum", .long⟩]⟩
    (by decide +kernel) (by decide) 0 ⟨Date.epoch, Time.midnight⟩
  exact ⟨engine, built, (parse_name_iff built (List.mem_singleton_self _)).mpr
    ⟨by decide, by decide, _, rfl, rfl, rfl⟩⟩

/-- A variable that is declared under the name of a constant is out of reach. -/
theorem exists_unreachable : ∃ engine,
    Settings.engine ⟨Dialect.standard, [⟨"PI", "/x", .long⟩]⟩ 0 ⟨Date.epoch, Time.midnight⟩ = .ok engine ∧
      ∀ tag, engine.parse "PI".toList ≠ .ok (.input ⟨tag, "/x", .long⟩) := by
  obtain ⟨engine, built⟩ := @exists_engine ⟨Dialect.standard, [⟨"PI", "/x", .long⟩]⟩
    (by decide +kernel) (by decide) 0 ⟨Date.epoch, Time.midnight⟩
  refine ⟨engine, built, fun tag read => ?_⟩
  obtain ⟨_, unnamed, _⟩ := Engine.parse_eq_input_iff.mp read
  obtain ⟨dialect, _, built⟩ := Except.bind_eq_ok_iff.mp built
  rw [(find?_of_register built).2.1] at unnamed
  exact absurd (by decide) (Library.find?_constants_eq_none_iff.mp unnamed)

end Settings

end Reckoner
