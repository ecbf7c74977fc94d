import Reckoner.Function.Basic
import Reckoner.Value.Basic

/-! # Expression trees

An expression is a literal, a named constant, a variable read from a document, an operator or a
function over operands, or a grouped expression. Grouping has no meaning of its own: it records how
an expression was written.
-/

namespace Reckoner

/-- A named value that is known without a document. -/
structure Constant where
  tag : Tag
  kind : Kind
  value : Value
deriving DecidableEq

/-- A named value that is read from a document at a pointer. -/
structure Variable where
  tag : Tag
  pointer : String
  kind : Kind
deriving DecidableEq

namespace Constant

def shown (item : Constant) : String :=
  "ValueConstant \x7b ty: " ++ item.kind.name ++ ", value: " ++ item.value.shown ++ " \x7d"

end Constant

namespace Variable

def shown (item : Variable) : String :=
  "JsonVariable \x7b pointer: " ++ Text.quoted item.pointer ++ ", ty: " ++ item.kind.name ++ " \x7d"

end Variable

/-- An expression. A literal is declared to be of a kind that may differ from its value's. -/
inductive Tree where
  | literal (kind : Kind) (value : Value)
  | constant (item : Constant)
  | input (item : Variable)
  | operation (operator : Operator) (operands : List Tree)
  | call (function : Function) (operands : List Tree)
  | block (inner : Tree)

instance : Inhabited Tree := ⟨.literal .null .null⟩

namespace Tree

def ofValue (value : Value) : Tree := .literal value.kind value

def children : Tree → List Tree
  | operation _ operands | call _ operands => operands
  | block inner => [inner]
  | _ => []

mutual

/-- The variables of an expression from left to right. -/
def inputs : Tree → List Variable
  | literal _ _ | constant _ => []
  | input item => [item]
  | operation _ operands | call _ operands => inputsOfAll operands
  | block inner => inputs inner

def inputsOfAll : List Tree → List Variable
  | [] => []
  | tree :: rest => inputs tree ++ inputsOfAll rest

end

mutual

/-- No part of the expression depends on a document. -/
def isConstant : Tree → Bool
  | literal _ _ | constant _ => true
  | input _ => false
  | operation _ operands | call _ operands => areConstant operands
  | block inner => isConstant inner

def areConstant : List Tree → Bool
  | [] => true
  | tree :: rest => isConstant tree && areConstant rest

end

theorem areConstant_eq_all (trees : List Tree) : areConstant trees = trees.all isConstant := by
  induction trees with
  | nil => simp only [areConstant, List.all_nil]
  | cons tree rest ih => simp only [areConstant, List.all_cons, ih]

theorem inputsOfAll_eq_flatMap (trees : List Tree) : inputsOfAll trees = trees.flatMap inputs := by
  induction trees with
  | nil => simp only [inputsOfAll, List.flatMap_nil]
  | cons tree rest ih => simp only [inputsOfAll, List.flatMap_cons, ih]

end Tree

end Reckoner
