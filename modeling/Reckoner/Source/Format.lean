import Reckoner.Dialect.Literal
import Reckoner.Engine.Basic

/-! # Writing expressions

Tokens stand between operands with a blank on either side, or directly at a single operand.
Arguments are separated by the separator and a blank. An operand that would begin with the token of
an operator written in front is put into a block, because it would be read as part of something
else: a literal always, an operation where several operands stand in a row.
-/

namespace Reckoner

namespace Engine

def blockText (engine : Engine) (text : List Char) : List Char :=
  engine.dialect.blockOpen :: text ++ [engine.dialect.blockClose]

/-- The text begins with the token of an operator that is written in front of its operand. -/
def beginsWithToken (engine : Engine) (text : List Char) : Bool :=
  engine.operators.any fun entry =>
    entry.operator.kind.isUnary && !entry.operator.kind.isSuffix && !entry.token.isEmpty &&
      (Text.afterSpelling? (Text.asciiLower entry.token.toList) text).isSome

/-- The expression is put into a block where its text begins with a token: `isOneOfMany` says that
it stands in a row of operands. -/
def needsBlock (isOneOfMany : Bool) : Tree → Bool
  | .literal _ _ => true
  | .operation _ _ => isOneOfMany
  | _ => false

def operandText (engine : Engine) (isOneOfMany : Bool) (operand : Tree) (text : List Char) :
    List Char :=
  if needsBlock isOneOfMany operand && engine.beginsWithToken text then engine.blockText text
  else text

def operationText (operator : OperatorKind) (token : List Char) (operands : List (List Char)) :
    List Char :=
  if operator.isUnary then
    if operator.isSuffix then operands.flatten ++ token else token ++ operands.flatten
  else List.intercalate (' ' :: Text.trim token ++ [' ']) operands

def callText (engine : Engine) (name : List Char) (arguments : List (List Char)) : List Char :=
  name ++ engine.dialect.functionOpen ::
    List.intercalate [engine.dialect.separator, ' '] arguments ++ [engine.dialect.functionClose]

mutual

def format (engine : Engine) : Tree → Except FormatError (List Char)
  | .literal kind value => engine.dialect.literalText kind value
  | .constant item => match engine.constants.nameOf? item with
    | some name => .ok name.toList
    | none => .error (.unnamedConstant item)
  | .input item => match engine.inputs.nameOf? item with
    | some name => .ok name.toList
    | none => .error (.unnamedVariable item)
  | .operation operator operands => match engine.tokenOf? operator with
    | some token => do
      let texts ← formatOperands engine (!operator.kind.isUnary) operands
      .ok (operationText operator.kind token.toList texts)
    | none => .error (.unnamedOperator operator)
  | .call function operands => match engine.functions.nameOf? function with
    | some name => do .ok (engine.callText name.toList (← formatAll engine operands))
    | none => .error (.unnamedFunction function)
  | .block inner => do .ok (engine.blockText (← format engine inner))

def formatOperands (engine : Engine) (isOneOfMany : Bool) :
    List Tree → Except FormatError (List (List Char))
  | [] => .ok []
  | operand :: rest => do
    let text ← format engine operand
    let texts ← formatOperands engine isOneOfMany rest
    .ok (engine.operandText isOneOfMany operand text :: texts)

def formatAll (engine : Engine) : List Tree → Except FormatError (List (List Char))
  | [] => .ok []
  | tree :: rest => do
    let text ← format engine tree
    let texts ← formatAll engine rest
    .ok (text :: texts)

end

def formatList (engine : Engine) (separator : List Char) (trees : List Tree) :
    Except FormatError (List Char) := do
  .ok (List.intercalate separator (← engine.formatAll trees))

end Engine

end Reckoner
