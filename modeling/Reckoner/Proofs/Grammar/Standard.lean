import Reckoner.Engine.Library
import Reckoner.Proofs.Reading
import Reckoner.Proofs.Source.Name
import Reckoner.Proofs.Source.Token
import Mathlib.Data.List.Nodup
import Mathlib.Data.List.Range

/-! # The standard library as a grammar

Each standard operator has a level, its place among the registered ones, and a token, which determine
how texts fall apart. Variables join the library under words, which have no character in common with
tokens and delimiters, so an engine with any such variables reads operators alike.
-/

namespace Reckoner

namespace OperatorKind

/-- The place of an operator in the standard library, counted from the loosest one. -/
def level : OperatorKind → Nat
  | or => 0
  | and => 1
  | not => 2
  | comparison .notEqual => 3
  | comparison .lessOrEqual => 4
  | comparison .greaterOrEqual => 5
  | comparison .equal => 6
  | comparison .less => 7
  | comparison .greater => 8
  | addition => 9
  | concatenation => 10
  | subtraction _ _ => 11
  | multiplication => 12
  | division _ => 13
  | square => 14
  | negation => 15

/-- The characters by which the standard library writes an operator. -/
def token : OperatorKind → List Char
  | or => ['|']
  | and => ['&']
  | not => ['!']
  | comparison .notEqual => ['!', '=']
  | comparison .lessOrEqual => ['<', '=']
  | comparison .greaterOrEqual => ['>', '=']
  | comparison .equal => ['=']
  | comparison .less => ['<']
  | comparison .greater => ['>']
  | addition | concatenation => ['+']
  | subtraction _ _ | negation => ['-']
  | multiplication => ['*']
  | division _ => ['/']
  | square => ['²']

theorem level_lt (operator : OperatorKind) : operator.level < 16 := by
  cases operator with
  | comparison relation => cases relation <;> decide
  | _ => exact Nat.le_of_ble_eq_true rfl

end OperatorKind

/-- The place of an entry's operator in the standard library. -/
abbrev OperatorEntry.level (entry : OperatorEntry) : Nat := entry.operator.kind.level

namespace Library

variable {base : Tag} {entry other : OperatorEntry}

/-- The operators are registered by their levels, one at each of them. -/
theorem map_level_operators (base : Tag) :
    (operators base).map OperatorEntry.level = List.range 16 := rfl

/-- An operator of the library is looked for by its own token. -/
theorem spelling_of_mem (registered : entry ∈ operators base) :
    entry.spelling = entry.operator.kind.token := by
  revert entry
  simp only [operators, List.forall_mem_cons]
  refine ⟨?_, ?_, ?_, ?_, ?_, ?_, ?_, ?_, ?_, ?_, ?_, ?_, ?_, ?_, ?_, ?_, List.forall_mem_nil _⟩
  all_goals
    dsimp only [OperatorEntry.spelling, OperatorKind.token]
    decide

theorem mem_addition (base : Tag) : ⟨"+", additionTag base, .addition⟩ ∈ operators base := by
  simp only [operators, List.mem_cons, true_or, or_true]

theorem mem_multiplication (base : Tag) :
    ⟨"*", multiplicationTag base, .multiplication⟩ ∈ operators base := by
  simp only [operators, List.mem_cons, true_or, or_true]

theorem mem_negation (base : Tag) : ⟨"-", negationTag base, .negation⟩ ∈ operators base := by
  simp only [operators, List.mem_cons, true_or, or_true]

/-- Of two entries the one of the lower level is registered earlier. -/
theorem mem_before_iff {before after : List OperatorEntry}
    (entries : operators base = before ++ entry :: after) :
    other ∈ before ↔ other ∈ operators base ∧ other.level < entry.level := by
  have sorted : ((operators base).map OperatorEntry.level).Pairwise (· < ·) := by
    rw [map_level_operators]
    exact List.pairwise_lt_range
  rw [entries, List.map_append, List.map_cons, List.pairwise_append, List.pairwise_cons] at sorted
  obtain ⟨_, ⟨later, _⟩, earlier⟩ := sorted
  constructor
  · intro member
    refine ⟨entries ▸ List.mem_append_left _ member, ?_⟩
    exact earlier _ (List.mem_map_of_mem member) _ (List.mem_cons_self ..)
  · rintro ⟨registered, below⟩
    rw [entries, List.mem_append, List.mem_cons] at registered
    rcases registered with member | rfl | member
    · exact member
    · exact absurd below (Nat.lt_irrefl _)
    · exact absurd below (Nat.lt_asymm (later _ (List.mem_map_of_mem member)))

/-- Two entries of one level are one entry. -/
theorem eq_of_level_eq (registered : entry ∈ operators base) (registeredToo : other ∈ operators base)
    (same : entry.level = other.level) : entry = other := by
  have distinct : ((operators base).map OperatorEntry.level).Nodup := by
    rw [map_level_operators]
    exact List.nodup_range
  exact List.inj_on_of_nodup_map distinct registered registeredToo same

end Library

/-- The standard dialect and operators, with constants, variables and functions under words. -/
structure Engine.Ordinary (engine : Engine) (base : Tag) : Prop where
  dialect : engine.dialect = Dialect.standard
  operators : engine.operators = Library.operators base
  constants : engine.constants.Worded
  inputs : engine.inputs.Worded
  functions : engine.functions.Worded

/-- The standard operators are found at their levels. -/
theorem Engine.Ordinary.positionOf?_eq {engine : Engine} {base : Tag} (ordinary : engine.Ordinary base)
    {entry : OperatorEntry} (registered : entry ∈ Library.operators base) :
    engine.positionOf? entry.operator = some entry.level := by
  obtain ⟨before, after, entries⟩ := List.append_of_mem registered
  have place : (List.range 16)[before.length]? = some entry.level := by
    rw [← Library.map_level_operators base, entries, List.map_append,
      List.getElem?_append_right (Nat.le_of_eq (List.length_map _)), List.length_map, Nat.sub_self]
    rfl
  obtain ⟨small, level⟩ := List.getElem?_eq_some_iff.mp place
  rw [List.getElem_range] at level
  have absent : before.findIdx? (fun other => other.operator == entry.operator) = none := by
    rw [List.findIdx?_eq_none_iff]
    intro other member
    have below := ((Library.mem_before_iff entries).mp member).2
    apply beq_eq_false_iff_ne.mpr
    intro same
    rw [OperatorEntry.level, same] at below
    exact Nat.lt_irrefl _ below
  rw [positionOf?, ordinary.operators, entries, List.findIdx?_append, absent, Option.none_or,
    List.findIdx?_cons, beq_self_eq_true, if_pos rfl, Option.map_some, Nat.zero_add, level]

namespace Engine

/-- The engine with the standard library and these variables, registered in order. -/
def withVariables (base : Tag) (now : DateTime) (items : List (String × Variable)) : Engine :=
  items.foldl (fun engine entry => engine.addVariable entry.1 entry.2) (standard base now)

/-- Variables are registered in the standard engine and change nothing else in it. -/
theorem withVariables_eq (base : Tag) (now : DateTime) (items : List (String × Variable)) :
    withVariables base now items =
      { standard base now with inputs := .ofList items } := by
  have spread (items : List (String × Variable)) (inputs : Register Variable) :
      items.foldl (fun engine entry => engine.addVariable entry.1 entry.2)
          { standard base now with inputs := inputs } =
        { standard base now with
          inputs := items.foldl (fun register entry => register.insert entry.1 entry.2)
            inputs } := by
    induction items generalizing inputs with
    | nil => rfl
    | cons first rest ih => exact ih (inputs.insert first.1 first.2)
  exact spread items .empty

/-- A name that variables may have: a letter or underscore, then letters, digits and underscores. -/
def isIdentifier (name : String) : Bool :=
  match name.toList with
  | [] => false
  | c :: rest => (c.isAlpha || c == '_') && rest.all Text.isWordChar

theorem isWordChar_of_isIdentifier {name : String} (identifier : isIdentifier name = true) :
    ∀ c ∈ name.toList, Text.isWordChar c = true := by
  unfold isIdentifier at identifier
  split at identifier
  · exact absurd identifier Bool.false_ne_true
  · next c rest same =>
    obtain ⟨first, others⟩ := Bool.and_eq_true_iff.mp identifier
    rw [same]
    refine List.forall_mem_cons.mpr ⟨?_, List.all_eq_true.mp others⟩
    rw [Text.isWordChar, Char.isAlphanum]
    rcases Bool.or_eq_true_iff.mp first with letter | underscore
    · rw [letter, Bool.true_or, Bool.true_or]
    · rw [underscore, Bool.or_true]

/-- Objects that are registered under words stand under words. -/
theorem worded_ofList {α : Type} {entries : List (String × α)}
    (word : ∀ entry ∈ entries, ∀ c ∈ entry.1.toList, Text.isWordChar c = true) :
    (Register.ofList entries).Worded := by
  refine Register.forall_ofList
    (fun entry : Entry α => ∀ c ∈ entry.name.toList, Text.isWordChar c = true) ?_
  intro entry member c inside
  rw [Text.trimString, String.toList_ofList] at inside
  exact word entry member c (Text.mem_of_mem_trim inside)

/-- Variables under identifiers leave the engine an ordinary one. -/
theorem ordinary_withVariables {base : Tag} {now : DateTime} {items : List (String × Variable)}
    (identifiers : ∀ entry ∈ items, isIdentifier entry.1 = true) :
    (withVariables base now items).Ordinary base := by
  rw [withVariables_eq]
  refine ⟨rfl, rfl, worded_ofList ?_, worded_ofList ?_, worded_ofList ?_⟩
  · simp only [List.forall_mem_cons]
    exact ⟨by decide, by decide, List.forall_mem_nil _⟩
  · exact fun entry member => isWordChar_of_isIdentifier (identifiers entry member)
  · simp only [List.forall_mem_cons]
    refine ⟨?_, ?_, ?_, ?_, ?_, ?_, ?_, ?_, ?_, ?_, ?_, ?_, ?_, ?_, ?_, ?_, List.forall_mem_nil _⟩
    all_goals decide

end Engine

end Reckoner
