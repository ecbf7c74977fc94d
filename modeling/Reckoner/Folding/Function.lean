import Reckoner.Folding.Basic

/-! # Folding of functions

A conditional whose condition is constant becomes the chosen branch, and a search for a value that
is not null ends at the first constant if nothing unknown stands in front of it. Some functions fold
over any constant operands, some over a single literal only, and two do not fold at all.
-/

namespace Reckoner

/-- The chosen branch of a conditional with a constant condition, in the common kind of the
branches. A branch of another kind is chosen only if it is constant. -/
def foldConditional? (operands : List Tree) : Option Folded :=
  match operands with
  | condition :: accepted :: rejected :: others => do
    let truth ← (← condition.literalValue?).asTruth.toOption
    let chosen := if truth = some true then accepted else rejected
    let kind := Kind.joined (Tree.kinds (accepted :: rejected :: others))
    if chosen.kind = kind then some (.tree chosen)
    else
      let value ← (← chosen.literalValue?).coerce kind |>.toOption
      some (.literal kind value)
  | _ => none

/-- The first constant that is not null, in the kind `kind`, if only constants stand before it. -/
def foldFirstValue? (kind : Kind) : List Tree → Option Folded
  | [] => none
  | operand :: rest =>
    match operand.literalValue? with
    | none => none
    | some .null => foldFirstValue? kind rest
    | some value => (value.coerce kind).toOption.map (Folded.literal kind)

def FunctionKind.fold? (function : FunctionKind) (operands : List Tree) : Option Folded :=
  match function with
  | .conditional => foldConditional? operands
  | .noNull => foldFirstValue? (Kind.joined (Tree.kinds operands)) operands
  | .isNull | .noZero | .hexadecimal | .squareRoot | .kindName =>
    foldLiteral? (function.resultKind (Tree.kinds operands)) function.apply operands
  | .absolute | .round | .least | .greatest | .length | .upper | .lower =>
    foldConstant? (function.resultKind (Tree.kinds operands)) function.apply operands
  | .evaluates | .now _ => none

end Reckoner
