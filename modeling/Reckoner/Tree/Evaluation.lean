import Reckoner.Calendar.IsoRead
import Reckoner.Function.Meaning
import Reckoner.Json.Pointer
import Reckoner.Operator.Meaning
import Reckoner.Tree.Basic

/-! # Evaluation

The kind an expression is declared to have, and its outcome for a document or for none at all. Only
variables look at the document. An expression without variables that evaluates has a literal value,
whatever the document.
-/

namespace Reckoner

namespace Json

/-- The value of kind `kind` that a part of a document is. -/
def value? (kind : Kind) (part : Json) : Option Value :=
  match kind, part with
  | _, .null | .null, _ => some .null
  | .boolean, .boolean truth => some (.boolean truth)
  | .long, .integer n => (Long.ofInt? n).map .long
  | .double, .integer n => some (.double (Double.ofInt n))
  | .double, .float x => some (.double x)
  | .string, .string text => some (.string text)
  | .date, .string text => (Date.ofIso? text.toList).map .date
  | .time, .string text => (Time.ofIso? text.toList).map .time
  | .dateTime, .string text => (DateTime.ofIso? text.toList).map .dateTime
  | _, _ => none

end Json

namespace Variable

/-- The value that a document holds at the pointer, null where it holds nothing. -/
def outcome (document : Option Json) (item : Variable) : Except EvalError Value :=
  match document with
  | none => .error (.noDocument item.pointer)
  | some document => match document.at? item.pointer with
    | none => .ok .null
    | some part => match part.value? item.kind with
      | some value => .ok value
      | none => .error (.unreadable part item.kind)

end Variable

namespace Tree

mutual

def kind : Tree → Kind
  | literal kind _ => kind
  | constant item => item.kind
  | input item => item.kind
  | operation operator operands => operator.kind.resultKind (kinds operands)
  | call function operands => function.kind.resultKind (kinds operands)
  | block inner => kind inner

def kinds : List Tree → List Kind
  | [] => []
  | tree :: rest => kind tree :: kinds rest

end

mutual

def outcome (document : Option Json) : Tree → Except EvalError Value
  | literal _ value => .ok value
  | constant item => .ok item.value
  | input item => item.outcome document
  | operation operator operands => operator.kind.apply (operandsFor document operands)
  | call function operands => function.kind.apply (operandsFor document operands)
  | block inner => outcome document inner

/-- Expressions as operands, evaluated for a document. -/
def operandsFor (document : Option Json) : List Tree → List Operand
  | [] => []
  | tree :: rest => ⟨kind tree, outcome document tree⟩ :: operandsFor document rest

end

/-- The value of an expression that has one without looking at any document. -/
def literalValue? (tree : Tree) : Option Value :=
  if tree.isConstant then (tree.outcome none).toOption else none

theorem kinds_eq_map (trees : List Tree) : kinds trees = trees.map kind := by
  induction trees with
  | nil => simp only [kinds, List.map_nil]
  | cons tree rest ih => simp only [kinds, List.map_cons, ih]

theorem operandsFor_eq_map (document : Option Json) (trees : List Tree) :
    operandsFor document trees = trees.map fun tree => ⟨tree.kind, tree.outcome document⟩ := by
  induction trees with
  | nil => simp only [operandsFor, List.map_nil]
  | cons tree rest ih => simp only [operandsFor, List.map_cons, ih]

/-- Operands are declared to be of the kinds of the expressions. -/
theorem kinds_operandsFor (document : Option Json) (trees : List Tree) :
    Operand.kinds (operandsFor document trees) = kinds trees := by
  rw [operandsFor_eq_map, kinds_eq_map, Operand.kinds, List.map_map]
  rfl

end Tree

def Operator.accepts (operator : Operator) (operands : List Tree) : Bool :=
  operator.kind.accepts (Tree.kinds operands)

def Function.accepts (function : Function) (operands : List Tree) : Bool :=
  function.kind.accepts (Tree.kinds operands) (operands.getLast?.bind Tree.literalValue?)

end Reckoner
