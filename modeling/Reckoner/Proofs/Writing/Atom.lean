import Reckoner.Proofs.Writing.Expression

/-! # Literals, names and calls read back

No operator takes a solid text, so a solid text is read as what it is on its own: a literal where
nothing is named by it, a constant or a variable by its name, a call by the name of its function and the
texts of its arguments.
-/

namespace Reckoner

namespace Dialect

open Text (isWordChar)

theorem enclosed?_eq_none {dialect : Dialect} {opening closing : Char} {text : List Char}
    (other : text.head? ≠ some opening) : dialect.enclosed? opening closing text = none := by
  cases text with
  | nil => rfl
  | cons c rest => exact if_neg fun encloses => other (congrArg some encloses.1)

theorem call?_eq_none {text : List Char} (free : '(' ∉ text) : standard.call? text = none := by
  have nothing : text.dropWhile (· ≠ '(') = [] := by
    rw [List.dropWhile_eq_nil_iff]
    exact fun c member => decide_eq_true fun same => free (same ▸ member)
  rw [call?, show standard.functionOpen = '(' from rfl, nothing]
  rfl

theorem parenthesis_not_mem_of_word {text : List Char} (word : ∀ c ∈ text, isWordChar c = true) :
    '(' ∉ text := fun member => absurd (word '(' member) (by decide)

theorem head?_ne_of_not_mem {text : List Char} {c : Char} (free : c ∉ text) :
    text.head? ≠ some c := fun first => free (List.mem_of_head? first)

/-- A word and a balanced text between parentheses are the name and the interior of a call. -/
theorem call?_of_balanced {name inner : List Char} (word : ∀ c ∈ name, isWordChar c = true)
    (balanced : standard.Balanced inner) :
    standard.call? (name ++ '(' :: inner ++ [')']) = some (name, inner) := by
  have outside : ∀ c ∈ name, decide (c ≠ '(') = true := fun c member =>
    decide_eq_true fun same => parenthesis_not_mem_of_word word (same ▸ member)
  have encloses := balanced.enclosed? Text.opens_block Text.closes_block
  rw [call?, show standard.functionOpen = '(' from rfl, show standard.functionClose = ')' from rfl,
    List.append_assoc, List.dropWhile_append_of_pos outside, List.takeWhile_append_of_pos outside,
    List.cons_append, List.dropWhile_cons_of_neg (by decide), List.takeWhile_cons_of_neg (by decide),
    ← List.cons_append, encloses, Option.map_some, List.append_nil]

/-- Wholes with separators between them are the texts of arguments. -/
theorem arguments_of_texts {texts : List (List Char)} (wholes : ∀ text ∈ texts, Text.Whole text) :
    List.Forall₂ (fun part text => Text.trim part = Text.trim text)
      (standard.arguments (List.intercalate [',', ' '] texts)) texts := by
  have spelled (some : texts ≠ []) :
      (Text.trim (List.intercalate [',', ' '] texts)).isEmpty = false := by
    obtain ⟨first, rest, rfl⟩ := List.exists_cons_of_ne_nil some
    rw [List.isEmpty_eq_false_iff]
    intro empty
    refine (wholes first (List.mem_cons_self ..)).spelled (Text.trim_eq_nil_iff.mpr fun c member => ?_)
    refine Text.trim_eq_nil_iff.mp empty c ?_
    cases rest with
    | nil => exact List.intercalate_singleton ▸ member
    | cons second rest =>
      rw [List.intercalate_cons_cons, List.append_assoc]
      exact List.mem_append_left _ member
  match texts with
  | [] => exact .nil
  | [text] =>
    have uncut := (wholes text (List.mem_singleton_self text)).undivided
    rw [arguments, spelled (List.cons_ne_nil _ _), List.intercalate_singleton, split?,
      show [standard.separator] = [','] from rfl, uncut]
    exact .cons rfl .nil
  | first :: second :: rest =>
    have several : 2 ≤ (first :: second :: rest).length := Nat.le_add_left 2 rest.length
    obtain ⟨parts, split, same⟩ := exists_split?_of_separator isToken_separator (by decide) rfl several
      fun text member => ⟨(wholes text member).balanced.scan 0, (wholes text member).undivided⟩
    rw [arguments, spelled (List.cons_ne_nil _ _), show [standard.separator] = [','] from rfl, split]
    exact same

end Dialect

namespace Engine

variable {engine : Engine} {base : Tag} {text : List Char}

/-- A solid text is no operation. -/
theorem Ordinary.skips_of_solid (ordinary : engine.Ordinary base) (solid : Text.Solid text) :
    ∀ entry ∈ engine.operators, entry.Skips engine (Text.trim text) := by
  rw [ordinary.operators, solid.tight.trim_eq]
  intro entry registered operands takes
  obtain ⟨c, member⟩ := List.exists_mem_of_ne_nil _ entry.operator.kind.isToken.spelled
  have inside := OperatorEntry.mem_surfaceChars_of_takes ordinary registered takes c member
  exact solid.silent c inside (Library.mem_cutters c member)

/-- The text of a call with balanced arguments, read as a name and what stands between parentheses. -/
theorem Ordinary.solid_callText (ordinary : engine.Ordinary base) {name : List Char}
    {texts : List (List Char)} (word : ∀ c ∈ name, Text.isWordChar c = true)
    (wholes : ∀ text ∈ texts, Text.Whole text) :
    Text.Solid (engine.callText name texts) ∧ '(' ∈ engine.callText name texts ∧
      engine.dialect.call? (engine.callText name texts) =
        some (name, List.intercalate [',', ' '] texts) := by
  have balanced : Dialect.standard.Balanced (List.intercalate [',', ' '] texts) :=
    Dialect.Balanced.intercalate (Dialect.balanced_of_plain (by decide)) fun text member =>
      (wholes text member).balanced
  have whole : engine.callText name texts =
      name ++ '(' :: List.intercalate [',', ' '] texts ++ [')'] := by
    rw [callText, ordinary.dialect]
    rfl
  rw [whole, ordinary.dialect]
  refine ⟨Text.solid_of_balanced word balanced, ?_, Dialect.call?_of_balanced word balanced⟩
  rw [List.append_assoc]
  exact List.mem_append_right _ (List.mem_cons_self ..)

/-- The name of a function and wholes that read as operands which it accepts make a call. -/
theorem Ordinary.parse_callText (ordinary : engine.Ordinary base) {function : Function} {name : String}
    {texts : List (List Char)} {trees : List Tree} (identifier : isIdentifier name = true)
    (found : engine.functions.find? name.toList = some function)
    (wholes : ∀ text ∈ texts, Text.Whole text) (read : engine.ReadsAll texts trees)
    (accepted : function.accepts trees = true) :
    engine.parse (engine.callText name.toList texts) = .ok (.call function trees) := by
  have word := isWordChar_of_isIdentifier identifier
  obtain ⟨solid, parenthesis, split⟩ := ordinary.solid_callText word wholes
  have called : engine.call? (engine.callText name.toList texts) =
      some (function, Dialect.standard.arguments (List.intercalate [',', ' '] texts)) := by
    rw [call?, split, ordinary.dialect]
    simp only [Option.bind_eq_bind, Option.bind_some, found]
  have first : (engine.callText name.toList texts).head? ≠ some '(' := by
    obtain ⟨c, rest, spelled⟩ := List.exists_cons_of_ne_nil (ne_nil_of_isIdentifier identifier)
    rw [callText, spelled]
    rw [spelled] at word
    exact fun first => absurd (Option.some.inj first ▸ word c (List.mem_cons_self ..)) (by decide)
  have unnamed := ordinary.named?_eq_none (by decide) parenthesis
  have skipped := ordinary.skips_of_solid solid
  have bare : Dialect.standard.enclosed? '(' ')' (engine.callText name.toList texts) = none :=
    Dialect.enclosed?_eq_none first
  rw [← solid.tight.trim_eq] at bare unnamed called
  refine parse_call ?_ unnamed skipped called (readsAll_of_trim (Dialect.arguments_of_texts wholes) read)
    accepted
  rw [ordinary.dialect]
  exact bare

namespace Legible

variable (legible : engine.Legible base)

include legible

theorem bare_of_head? (other : text.head? ≠ some '(') :
    engine.dialect.enclosed? engine.dialect.blockOpen engine.dialect.blockClose text = none := by
  rw [legible.dialect]
  exact Dialect.enclosed?_eq_none other

/-- A text that nothing is named by is no block, no name and no call. -/
theorem named?_of_unnamed (unnamed : Text.Unnamed text) : text.head? ≠ some '(' ∧
    engine.named? text = none ∧ engine.call? text = none := by
  have uncalled (free : '(' ∉ text) : engine.call? text = none := by
    rw [call?, legible.dialect, Dialect.call?_eq_none free]
    rfl
  cases unnamed with
  | word word literal =>
    have free := Dialect.parenthesis_not_mem_of_word word
    exact ⟨Dialect.head?_ne_of_not_mem free, legible.unnamed literal, uncalled free⟩
  | @digit c rest digit free =>
    exact ⟨Dialect.head?_ne_of_not_mem free, legible.uncounted digit rest, uncalled free⟩
  | quoted rest =>
    have quote : '"' ∈ Library.marks := by decide
    have first : ('"' :: rest).head? ≠ some '(' := fun first =>
      absurd (Option.some.inj first) (by decide)
    refine ⟨first, legible.named?_eq_none quote (List.mem_cons_self ..), ?_⟩
    cases called : engine.call? ('"' :: rest) with
    | none => rfl
    | some call =>
      -- The quote would stand in the name of a function.
      obtain ⟨⟨name, interior⟩, split, called⟩ := Option.bind_eq_some_iff.mp called
      obtain ⟨function, found, _⟩ := Option.bind_eq_some_iff.mp called
      obtain ⟨inner, _, same⟩ := Option.map_eq_some_iff.mp split
      obtain ⟨rfl, rfl⟩ := Prod.mk.inj same
      have inside : '"' ∈ ('"' :: rest).takeWhile (· ≠ engine.dialect.functionOpen) := by
        rw [legible.dialect, List.takeWhile_cons_of_pos (by decide)]
        exact List.mem_cons_self ..
      have word := legible.functions.isWordChar_of_find? found '"' inside (by decide) (by decide)
      exact absurd word (by decide)

/-- A solid text that denotes a value, and is no block, no name and no call, is read as its literal. -/
theorem parse_value {value : Value} (solid : Text.Solid text)
    (unnamed : text.head? ≠ some '(' ∧ engine.named? text = none ∧ engine.call? text = none)
    (denotes : Dialect.standard.literal? text = some value) :
    engine.parse text = .ok (.ofValue value) := by
  have ordinary := legible.toOrdinary
  obtain ⟨first, unknown, uncalled⟩ := unnamed
  rw [← solid.tight.trim_eq] at first unknown uncalled denotes
  exact parse_literal (legible.bare_of_head? first) unknown (ordinary.skips_of_solid solid)
    uncalled (ordinary.dialect ▸ denotes)

/-- A solid text that denotes a value, and is no block, no name and no call, is what is written for it. -/
theorem writes_value {value : Value} (written : Dialect.standard.literalText value.kind value = .ok text)
    (solid : Text.Solid text)
    (unnamed : text.head? ≠ some '(' ∧ engine.named? text = none ∧ engine.call? text = none)
    (denotes : Dialect.standard.literal? text = some value) :
    engine.format (.literal value.kind value) = .ok text ∧
      engine.Writes (.literal value.kind value) text := by
  refine ⟨?_, writes_of_solid solid ⟨_, legible.parse_value solid unnamed denotes, rfl⟩⟩
  rw [format, legible.toOrdinary.dialect, written]

/-- Plain literals are written as solid texts and read back. -/
theorem writes_literal {value : Value} (plain : value.isPlain = true) :
    ∃ text, engine.format (.literal value.kind value) = .ok text ∧
      engine.Writes (.literal value.kind value) text := by
  obtain ⟨text, written, solid, unnamed, denotes⟩ := Dialect.literal?_of_isPlain plain
  exact ⟨text, legible.writes_value written solid (legible.named?_of_unnamed unnamed) denotes⟩

/-- An identifier writes what it names. -/
theorem writes_name {name : String} {tree : Tree} (identifier : isIdentifier name = true)
    (named : engine.named? name.toList = some tree) : engine.Writes tree name.toList := by
  have word := isWordChar_of_isIdentifier identifier
  have solid := Text.solid_of_word (ne_nil_of_isIdentifier identifier) word
  have first := Dialect.head?_ne_of_not_mem (Dialect.parenthesis_not_mem_of_word word)
  rw [← solid.tight.trim_eq] at first named
  exact writes_of_solid solid ⟨tree, parse_name (legible.bare_of_head? first) named, rfl⟩

/-- The name of a function and the texts of its arguments make the text of a call. -/
theorem writes_call {function : Function} {name : String} {operands : List Tree}
    {texts : List (List Char)} (named : engine.functions.nameOf? function = some name)
    (accepted : function.accepts operands = true)
    (spell : List.Forall₂ (fun text operand => engine.Spells operand text) texts operands) :
    engine.Writes (.call function operands) (engine.callText name.toList texts) := by
  have ordinary := legible.toOrdinary
  obtain ⟨identifier, found⟩ := legible.function named
  have wholes : ∀ text ∈ texts, Text.Whole text :=
    ((List.forall₂_and_left ..).mp (spell.imp fun _ _ spells => ⟨spells.whole, spells⟩)).1
  obtain ⟨solid, _⟩ := ordinary.solid_callText (isWordChar_of_isIdentifier identifier) wholes
  obtain ⟨backs, readAll, same, alike⟩ := exists_readsAll_of_spells spell
  refine writes_of_solid solid ⟨_, ordinary.parse_callText identifier found wholes readAll
    ((Function.accepts_of_alike alike).trans accepted), ?_⟩
  rw [Tree.bare, Tree.bare, same]

end Legible

end Engine

end Reckoner
