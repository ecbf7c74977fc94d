import Reckoner.Proofs.Grammar.Operation
import Reckoner.Proofs.Source.Recasing

/-! # Reading does not depend on letter case

An engine with the standard dialect and operators, and with functions under words, makes the same
expression of two texts that differ in the case of ASCII letters outside of quotes, or makes none of either.
Both are read as the text in lower case is, part by part.
-/

namespace Reckoner

private theorem findSome?_congr {α β : Type} {items : List α} {found foundToo : α → Option β}
    (same : ∀ item ∈ items, found item = foundToo item) :
    items.findSome? found = items.findSome? foundToo := by
  induction items with
  | nil => rfl
  | cons item rest ih =>
    obtain ⟨here, others⟩ := List.forall_mem_cons.mp same
    rw [List.findSome?_cons, List.findSome?_cons, here, ih others]

namespace Engine

/-- A text calls the function that its front names, with what stands between the brackets around all the
rest. -/
theorem call?_eq (engine : Engine) (text : List Char) :
    engine.call? text =
      (engine.functions.find? (text.takeWhile (· ≠ engine.dialect.functionOpen))).bind fun function =>
        (engine.dialect.enclosed? engine.dialect.functionOpen engine.dialect.functionClose
          (text.dropWhile (· ≠ engine.dialect.functionOpen))).map fun interior =>
            (function, engine.dialect.arguments interior) := by
  rw [call?, Dialect.call?]
  cases engine.dialect.enclosed? engine.dialect.functionOpen engine.dialect.functionClose
      (text.dropWhile (· ≠ engine.dialect.functionOpen)) with
  | none => cases engine.functions.find? (text.takeWhile (· ≠ engine.dialect.functionOpen)) <;> rfl
  | some interior =>
    dsimp only [Option.map_some, Option.bind_eq_bind, Option.bind_some]

/-- Names are found in either case. -/
theorem find?_lowered {α : Type} (register : Register α) (nesting : Nesting) (text : List Char) :
    register.find? (Dialect.standard.loweredFrom nesting text) = register.find? text := by
  rw [← register.find?_asciiLower, Dialect.asciiLower_loweredFrom, register.find?_asciiLower]

/-- Names do not depend on ASCII case. -/
theorem named?_lowered (engine : Engine) (text : List Char) :
    engine.named? (Dialect.standard.lowered text) = engine.named? text := by
  rw [named?, Dialect.lowered, find?_lowered, find?_lowered, named?]

/-- Parts that are read alike in lower case are operands alike. -/
theorem mapM_reads?_lowered {engine : Engine} {parts : List (List Char)}
    (same : ∀ part ∈ parts, engine.reads? (Dialect.standard.lowered part) = engine.reads? part) :
    (parts.map Dialect.standard.lowered).mapM engine.reads? = parts.mapM engine.reads? := by
  induction parts with
  | nil => rfl
  | cons part rest ih =>
    obtain ⟨here, others⟩ := List.forall_mem_cons.mp same
    rw [List.map_cons, List.mapM_cons, here, ih others, List.mapM_cons]

section Lowered

variable {engine : Engine} {base : Tag} (dialect : engine.dialect = Dialect.standard)
  (operators : engine.operators = Library.operators base) (functions : engine.functions.Worded)

include dialect

include functions in
/-- The name in front of a call's arguments has no quotes. -/
theorem call?_lowered (text : List Char) :
    engine.call? (Dialect.standard.lowered text) =
      (engine.call? text).map fun (function, parts) => (function, parts.map Dialect.standard.lowered) := by
  have noOpening (c : Char) :
      decide (c.toLower ≠ Dialect.standard.functionOpen) = decide (c ≠ Dialect.standard.functionOpen) :=
    decide_eq_decide.mpr (not_congr (Text.toLower_eq_iff rfl))
  rw [call?_eq, call?_eq, dialect, Dialect.lowered, Dialect.takeWhile_loweredFrom noOpening,
    Dialect.dropWhile_loweredFrom noOpening, find?_lowered]
  cases found : engine.functions.find? (text.takeWhile (· ≠ Dialect.standard.functionOpen)) with
  | none => rfl
  | some function =>
    rw [Dialect.scan_of_plain (functions.isDelimiter_of_find? found)]
    have enclosed := Dialect.enclosed?_lowered (text.dropWhile (· ≠ Dialect.standard.functionOpen))
    rw [Option.bind_some, Option.bind_some]
    change (Dialect.standard.enclosed? '(' ')' (Dialect.standard.lowered _)).map _ = _
    rw [enclosed, Option.map_map, Option.map_map]
    refine Option.map_congr fun interior _ => ?_
    exact congrArg (Prod.mk function) (Dialect.arguments_lowered interior)

section Parts

variable {text : List Char} (shorter : ∀ part : List Char, part.length < text.length →
  engine.reads? (Dialect.standard.lowered part) = engine.reads? part)

include shorter

include operators in
/-- An operation is found in either case of the letters outside of quotes. -/
theorem operation?_lowered : engine.operation? (Dialect.standard.lowered text) = engine.operation? text := by
  rw [operation?, operation?, dialect]
  refine findSome?_congr fun entry registered => ?_
  rw [operators] at registered
  have plain : ∀ c ∈ entry.spelling, Dialect.standard.isDelimiter c = false := by
    rw [Library.spelling_of_mem registered]
    exact entry.operator.kind.isToken.plain
  refine congrArg (Option.bind · _) ?_
  rw [OperatorEntry.fragments?_lowered plain, Option.bind_map]
  refine Option.bind_congr fun parts fragments => ?_
  exact mapM_reads?_lowered fun part member =>
    shorter part (OperatorEntry.length_of_mem_fragments? fragments member)

include functions in
/-- A call is found in either case of the letters outside of quotes. -/
theorem calling?_lowered : engine.calling? (Dialect.standard.lowered text) = engine.calling? text := by
  rw [calling?, call?_lowered dialect functions, calling?, Option.bind_map]
  refine Option.bind_congr fun parts called => ?_
  have read := mapM_reads?_lowered fun part member => shorter part (length_of_call? called member)
  exact congrArg (Option.bind · _) read

end Parts

include operators functions in
/-- A text is read as its lower case is. -/
theorem reads?_lowered (text : List Char) :
    engine.reads? (Dialect.standard.lowered text) = engine.reads? text := by
  have shorter (part : List Char) (less : part.length < (Text.trim text).length) :
      engine.reads? (Dialect.standard.lowered part) = engine.reads? part := by
    have trimmed := Text.length_trim_le text
    exact reads?_lowered part
  have blocks : Dialect.standard.enclosed? Dialect.standard.blockOpen Dialect.standard.blockClose
        (Dialect.standard.lowered (Text.trim text)) =
      (Dialect.standard.enclosed? Dialect.standard.blockOpen Dialect.standard.blockClose
        (Text.trim text)).map Dialect.standard.lowered := Dialect.enclosed?_lowered _
  rw [reads?_eq, reads?_eq engine text, Dialect.trim_lowered, named?_lowered,
    operation?_lowered dialect operators shorter, calling?_lowered dialect functions shorter, dialect, blocks,
    Dialect.literal?_lowered]
  cases enclosed : Dialect.standard.enclosed? Dialect.standard.blockOpen Dialect.standard.blockClose
      (Text.trim text) with
  | none => rfl
  | some inner => exact congrArg (Option.map Tree.block) (shorter inner (Dialect.length_of_enclosed? enclosed))
termination_by text.length

end Lowered

variable {base : Tag} {now : DateTime} {items : List (String × Variable)}

/-- The engine of the library reads texts in either case of the letters outside of quotes alike. -/
theorem reads?_withVariables_lowered (text : List Char) :
    (withVariables base now items).reads? (Dialect.standard.lowered text) =
      (withVariables base now items).reads? text := by
  have bare : (withVariables base now []).Ordinary base := ordinary_withVariables (List.forall_mem_nil _)
  have dialect : (withVariables base now items).dialect = Dialect.standard := by
    rw [withVariables_eq]
    rfl
  have operators : (withVariables base now items).operators = Library.operators base := by
    rw [withVariables_eq]
    rfl
  have functions : (withVariables base now items).functions.Worded := by
    rw [withVariables_eq]
    exact bare.functions
  exact reads?_lowered dialect operators functions text

/-- Texts that differ in the case of ASCII letters outside of quotes give the same expression or none, under
whatever names the variables are registered. -/
theorem parse_eq_ok_iff_of_recased {left right : List Char}
    (recased : Dialect.standard.Recased Nesting.surface left right) (tree : Tree) :
    (withVariables base now items).parse left = .ok tree ↔
      (withVariables base now items).parse right = .ok tree := by
  have lowered : Dialect.standard.lowered left = Dialect.standard.lowered right :=
    Dialect.loweredFrom_eq_of_recased recased
  rw [← Except.toOption_eq_some_iff, ← Except.toOption_eq_some_iff, ← reads?, ← reads?,
    ← reads?_withVariables_lowered left, lowered, reads?_withVariables_lowered right]

/-- Names, operators and literals in capital letters, and a quoted text that is the same in both. -/
theorem exists_parse_of_capitals :
    Dialect.standard.Recased Nesting.surface "if(x > 1e3, \"Yes\", null)".toList
        "IF(X > 1E3, \"Yes\", Null)".toList ∧
      ∃ tree, (withVariables 0 ⟨Date.epoch, Time.midnight⟩ [("x", ⟨34, "/x", .long⟩)]).parse
          "if(x > 1e3, \"Yes\", null)".toList = .ok tree ∧
        (withVariables 0 ⟨Date.epoch, Time.midnight⟩ [("x", ⟨34, "/x", .long⟩)]).parse
          "IF(X > 1E3, \"Yes\", Null)".toList = .ok tree := by
  have reads : ((withVariables 0 ⟨Date.epoch, Time.midnight⟩ [("x", ⟨34, "/x", .long⟩)]).parse
      "if(x > 1e3, \"Yes\", null)".toList).toOption.isSome = true := by decide +kernel
  obtain ⟨tree, success⟩ := Option.isSome_iff_exists.mp reads
  have read := Except.toOption_eq_some_iff.mp success
  have recased : Dialect.standard.Recased Nesting.surface "if(x > 1e3, \"Yes\", null)".toList
      "IF(X > 1E3, \"Yes\", Null)".toList := by decide
  exact ⟨recased, tree, read, (parse_eq_ok_iff_of_recased recased tree).mp read⟩

end Engine

end Reckoner
