import Reckoner.Dialect.Basic
import Reckoner.Register
import Reckoner.Tree.Basic

/-! # Engines

A dialect together with the constants, variables, functions and operators that expressions may use.
The order of the operators is their precedence: of two operators the earlier binds looser. Several
operators may share a token.
-/

namespace Reckoner

/-- An operator under the token it is written with. -/
structure OperatorEntry where
  token : String
  operator : Operator

/-- Everything that gives expressions their meaning. -/
structure Engine where
  dialect : Dialect
  constants : Register Constant
  inputs : Register Variable
  functions : Register Function
  operators : List OperatorEntry

namespace Engine

/-- The engine that knows literals and blocks only. -/
def empty : Engine := ⟨Dialect.standard, .empty, .empty, .empty, []⟩

def addConstant (engine : Engine) (name : String) (item : Constant) : Engine :=
  { engine with constants := engine.constants.insert name item }

def addVariable (engine : Engine) (name : String) (item : Variable) : Engine :=
  { engine with inputs := engine.inputs.insert name item }

def addFunction (engine : Engine) (name : String) (item : Function) : Engine :=
  { engine with functions := engine.functions.insert name item }

/-- Registers an operator behind all others. -/
def addOperator (engine : Engine) (token : String) (item : Operator) : Engine :=
  { engine with operators := engine.operators ++ [⟨token, item⟩] }

/-- The first position of an operator among the registered ones. -/
def positionOf? (engine : Engine) (item : Operator) : Option Nat :=
  engine.operators.findIdx? fun entry => entry.operator == item

def tokenOf? (engine : Engine) (item : Operator) : Option String :=
  (engine.operators.find? fun entry => entry.operator == item).map OperatorEntry.token

end Engine

end Reckoner
