import Reckoner.Proofs.Folding.Failure

/-! # The verdict on operands

The function that asks whether its operands evaluate always answers, before reduction and after it, and
reduction never folds it. Its verdict depends on nothing but which operands fail. So it is kept where every
operand evaluates and keeps its value, and where one operand fails whose failure is not lost; whatever
reduction makes of the other operands does not matter then.
-/

namespace Reckoner

open Reckoner.Tree

namespace Tree

variable {document : Option Json} {function : Function} {operands : List Tree}

def evaluates (document : Option Json) (tree : Tree) : Bool := (tree.outcome document).toOption.isSome

theorem evaluates_iff {tree : Tree} :
    tree.evaluates document = true ↔ ∃ value, tree.outcome document = .ok value := by
  simp only [evaluates, Option.isSome_iff_exists, Except.toOption_eq_some_iff]

/-- Outcomes that are equal are values or failures alike. -/
theorem evaluates_of_outcome_eq {tree other : Tree}
    (same : tree.outcome document = other.outcome document) :
    tree.evaluates document = other.evaluates document := by rw [evaluates, evaluates, same]

theorem all_isKnown_operandsFor (document : Option Json) (operands : List Tree) :
    (operandsFor document operands).all Operand.isKnown = operands.all (·.evaluates document) := by
  rw [operandsFor_eq_map, List.all_map]
  apply List.all_congr
  · rfl
  · intro operand
    change Operand.isKnown ⟨operand.kind, operand.outcome document⟩ = _
    rw [Operand.isKnown, evaluates]
    cases operand.outcome document <;> rfl

/-- The verdict is there for every document, and it is whether all operands evaluate. -/
theorem outcome_of_asks (asks : function.kind = .evaluates) :
    (Tree.call function operands).outcome document =
      .ok (.boolean (operands.all (·.evaluates document))) := by
  rw [outcome, asks, FunctionKind.apply, all_isKnown_operandsFor]

end Tree

namespace Engine

variable {engine : Engine} {document : Option Json} {function : Function} {operands : List Tree}

/-- The question is kept as it is, over the reduced operands. -/
theorem reduce_of_asks (asks : function.kind = .evaluates) :
    engine.reduce (.call function operands) = .call function (operands.map engine.reduce) := by
  rw [reduce, reduceAll_eq_map, foldCall, asks]
  rfl

/-- A call that asks for failures is reduced to the answer for the reduced operands. -/
theorem outcome_reduce_of_asks (asks : function.kind = .evaluates) :
    (engine.reduce (.call function operands)).outcome document =
      .ok (.boolean (operands.all fun operand => (engine.reduce operand).evaluates document)) := by
  rw [reduce_of_asks asks, outcome_of_asks asks, List.all_map]
  rfl

/-- An operand that evaluates still does once it is reduced, unless it is rearranged or a failure is
concealed from a function within it that asks for one. -/
theorem evaluates_reduce {tree : Tree} (typed : tree.Typed)
    (still : tree.All (engine.rearranges · = false)) (candid : Candid document tree)
    (evaluates : tree.evaluates document = true) : (engine.reduce tree).evaluates document = true := by
  obtain ⟨value, success⟩ := evaluates_iff.mp evaluates
  exact evaluates_iff.mpr ⟨value, (reduce_mirrors typed still candid).operand.outcome value success⟩

/-- An operand that fails still does once it is reduced, unless it is rearranged or conceals a failure. -/
theorem fails_reduce {tree : Tree} (typed : tree.Typed)
    (still : tree.All (engine.rearranges · = false)) (sound : Lossless document tree)
    (fails : tree.evaluates document = false) : (engine.reduce tree).evaluates document = false := by
  rw [← fails]
  exact evaluates_of_outcome_eq ((reduce_mirrors typed still sound.candid).same sound)

/-- Asked before or after reduction, the function answers whether all operands, or all reduced ones, evaluate.
The answers agree if every operand evaluates, is not rearranged and has no failure concealed from a function
within it that asks for one, and also if some operand fails that is not rearranged and conceals no failure. -/
theorem verdict_of_reduce {text : List Char} (constants : engine.ConstantsFit)
    (read : engine.parse text = .ok (.call function operands)) (asks : function.kind = .evaluates)
    (document : Option Json) :
    (Tree.call function operands).outcome document =
      .ok (.boolean (operands.all (·.evaluates document))) ∧
    (engine.reduce (.call function operands)).outcome document =
      .ok (.boolean (operands.all fun operand => (engine.reduce operand).evaluates document)) ∧
    ((∀ operand ∈ operands, operand.evaluates document = true ∧
        operand.All (engine.rearranges · = false) ∧ Candid document operand) ∨
      (∃ operand ∈ operands, operand.evaluates document = false ∧
        operand.All (engine.rearranges · = false) ∧ Lossless document operand) →
      (engine.reduce (.call function operands)).outcome document =
        (Tree.call function operands).outcome document) := by
  have typed : ∀ operand ∈ operands, operand.Typed := fun operand member =>
    (typed_of_parse constants read).within (.argument member)
  have before : (Tree.call function operands).outcome document = _ := outcome_of_asks asks
  have after : (engine.reduce (.call function operands)).outcome document = _ :=
    outcome_reduce_of_asks asks
  refine ⟨before, after, ?_⟩
  rw [before, after]
  rintro (all | ⟨operand, member, fails, still, sound⟩)
  · have reduced : (operands.all fun operand => (engine.reduce operand).evaluates document) = true := by
      rw [List.all_eq_true]
      intro operand member
      obtain ⟨evaluates, still, candid⟩ := all operand member
      exact evaluates_reduce (typed operand member) still candid evaluates
    have original : operands.all (·.evaluates document) = true :=
      List.all_eq_true.mpr fun operand member => (all operand member).1
    rw [reduced, original]
  · have failsToo := fails_reduce (typed operand member) still sound fails
    rw [List.all_eq_false.mpr ⟨operand, member, ne_true_of_eq_false fails⟩,
      List.all_eq_false.mpr ⟨operand, member, ne_true_of_eq_false failsToo⟩]

/-- Of what was read, a call that asks is known by its operands. -/
theorem exists_call_of_asks (engine : Engine) (text : List Char) (check : List Tree → Bool)
    (checks : (engine.parse text).toOption.any (fun tree => tree.asks && check tree.children) = true) :
    ∃ function operands, engine.parse text = .ok (.call function operands) ∧
      function.kind = .evaluates ∧ check operands = true := by
  obtain ⟨tree, read, checks⟩ := (Option.any_eq_true _ _).mp checks
  obtain ⟨asks, checks⟩ := Bool.and_eq_true_iff.mp checks
  rw [Except.toOption_eq_some_iff.mp read]
  cases tree with
  | call function operands => exact ⟨function, operands, rfl, of_decide_eq_true asks, checks⟩
  | _ => cases asks

/-- A call of which both operands evaluate, and one whose first operand fails whatever becomes of the second. -/
theorem verdict_of_reduce_of_terms :
    let engine := (standard 0 ⟨Date.epoch, Time.midnight⟩).addVariable "x" ⟨40, "/x", .long⟩
    let document := some (Json.object [("x", .integer 1)])
    (∃ function operands, engine.parse "Calculate(x - 1, 2 * 3)".toList = .ok (.call function operands) ∧
      (engine.reduce (.call function operands)).outcome document = .ok (.boolean true)) ∧
    ∃ function operands, engine.parse
        "Calculate(1 + (9223372036854775807 + x), 0 * (9223372036854775807 + 1))".toList =
          .ok (.call function operands) ∧
      (engine.reduce (.call function operands)).outcome document = .ok (.boolean false) := by
  intro engine document
  have constants : engine.ConstantsFit := constantsFit_standard 0 ⟨Date.epoch, Time.midnight⟩
  constructor
  · obtain ⟨function, operands, read, asks, all⟩ := exists_call_of_asks engine
      "Calculate(x - 1, 2 * 3)".toList
      (fun operands => operands.all fun operand => operand.evaluates document &&
        decide (operand.All (engine.rearranges · = false)) && decide (Candid document operand))
      (by decide +kernel)
    simp only [Bool.and_eq_true, decide_eq_true_eq, List.all_eq_true] at all
    obtain ⟨verdict, -, kept⟩ := verdict_of_reduce constants read asks document
    refine ⟨function, operands, read, (kept (.inl fun operand member => ?_)).trans ?_⟩
    · obtain ⟨⟨evaluates, still⟩, candid⟩ := all operand member
      exact ⟨evaluates, still, candid⟩
    · rw [verdict, List.all_eq_true.mpr fun operand member => (all operand member).1.1]
  · obtain ⟨function, operands, read, asks, some_fails⟩ := exists_call_of_asks engine
      "Calculate(1 + (9223372036854775807 + x), 0 * (9223372036854775807 + 1))".toList
      (fun operands => operands.any fun operand => !operand.evaluates document &&
        decide (operand.All (engine.rearranges · = false)) && decide (Lossless document operand))
      (by decide +kernel)
    simp only [Bool.and_eq_true, Bool.not_eq_true', decide_eq_true_eq, List.any_eq_true] at some_fails
    obtain ⟨operand, member, ⟨fails, still⟩, sound⟩ := some_fails
    obtain ⟨verdict, -, kept⟩ := verdict_of_reduce constants read asks document
    refine ⟨function, operands, read, (kept (.inr ⟨operand, member, fails, still, sound⟩)).trans ?_⟩
    rw [verdict, List.all_eq_false.mpr ⟨operand, member, ne_true_of_eq_false fails⟩]

/-- A quotient by a divisor that fails is folded to no number, and then it evaluates; and a sum that
evaluates fails once its constants are collected. -/
theorem exists_other_verdict :
    let engine := ((standard 0 ⟨Date.epoch, Time.midnight⟩).addVariable "x" ⟨40, "/x", .long⟩).addVariable "y"
      ⟨41, "/y", .long⟩
    let document := some (Json.object [("x", .integer 1), ("y", .integer (-1))])
    (∃ tree, engine.parse "Calculate(1 / (9223372036854775807 + 1))".toList = .ok tree ∧
      tree.outcome document = .ok (.boolean false) ∧
      (engine.reduce tree).outcome document = .ok (.boolean true)) ∧
    ∃ tree, engine.parse "Calculate(x + 9223372036854775806 + y + 1)".toList = .ok tree ∧
      tree.outcome document = .ok (.boolean true) ∧
      (engine.reduce tree).outcome document = .ok (.boolean false) := by
  intro engine document
  have checks (text : List Char) (before after : Bool)
      (checked : (engine.parse text).toOption.map (fun tree => ((tree.outcome document).toOption,
        ((engine.reduce tree).outcome document).toOption)) =
        some (some (.boolean before), some (.boolean after))) :
      ∃ tree, engine.parse text = .ok tree ∧ tree.outcome document = .ok (.boolean before) ∧
        (engine.reduce tree).outcome document = .ok (.boolean after) := by
    obtain ⟨tree, read, checked⟩ := Option.map_eq_some_iff.mp checked
    obtain ⟨here, there⟩ := Prod.mk.inj checked
    exact ⟨tree, Except.toOption_eq_some_iff.mp read, Except.toOption_eq_some_iff.mp here,
      Except.toOption_eq_some_iff.mp there⟩
  constructor
  · exact checks _ false true (by decide +kernel)
  · exact checks _ true false (by decide +kernel)

end Engine

end Reckoner
