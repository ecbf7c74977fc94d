import Reckoner.Dialect.Literal
import Reckoner.Source.Fragments
import Reckoner.Tree.Evaluation

/-! # Reading expressions

A text without blanks at its ends is, in this order, a block, a name, an operator over fragments, a
call, or a literal. Operators are tried in the order in which they are registered, and the first
whose fragments are expressions that it accepts makes the expression. A text that is none of these
is blamed on the first fragment that could not be read, or on itself.
-/

namespace Reckoner

/-- The part of a text that cannot be read. -/
structure SyntaxError where
  fragment : List Char
deriving DecidableEq

namespace SyntaxError

/-- The place in the text that messages report, which is always its beginning. -/
def position (_ : SyntaxError) : Nat := 0

def message (error : SyntaxError) : String :=
  "Syntax error at 0: \"" ++ String.ofList error.fragment ++ "\""

/-- The error to report after another one: the first with a fragment that is not empty. -/
def remember (remembered : Option SyntaxError) (error : SyntaxError) : Option SyntaxError :=
  remembered.or (if error.fragment.isEmpty then none else some error)

end SyntaxError

def parseAll (parts : List (List Char))
    (parse : (part : List Char) → part ∈ parts → Except SyntaxError Tree) :
    Except SyntaxError (List Tree) :=
  match parts, parse with
  | [], _ => .ok []
  | part :: rest, parse => do
    let tree ← parse part (.head _)
    let trees ← parseAll rest fun other member => parse other (.tail _ member)
    .ok (tree :: trees)

/-- The operation that the first suitable entry makes of a text, or the error to report. `parse`
gives the operands for an entry whose token is there. -/
def firstOperation (parse : OperatorEntry → Option (Except SyntaxError (List Tree)))
    (remembered : Option SyntaxError) :
    List OperatorEntry → Except (Option SyntaxError) Tree
  | [] => .error remembered
  | entry :: rest =>
    match parse entry with
    | none => firstOperation parse remembered rest
    | some (.error error) => firstOperation parse (SyntaxError.remember remembered error) rest
    | some (.ok operands) =>
      if entry.operator.accepts operands then .ok (.operation entry.operator operands)
      else firstOperation parse remembered rest

namespace Engine

def named? (engine : Engine) (text : List Char) : Option Tree :=
  ((engine.constants.find? text).map Tree.constant).or
    ((engine.inputs.find? text).map Tree.input)

def call? (engine : Engine) (text : List Char) : Option (Function × List (List Char)) := do
  let (name, interior) ← engine.dialect.call? text
  let function ← engine.functions.find? name
  some (function, engine.dialect.arguments interior)

/-- Arguments are shorter than the call. -/
theorem length_of_call? {engine : Engine} {text part : List Char} {function : Function}
    {parts : List (List Char)} (call : engine.call? text = some (function, parts))
    (member : part ∈ parts) : part.length < text.length := by
  obtain ⟨⟨name, interior⟩, enclosed, call⟩ := Option.bind_eq_some_iff.mp call
  obtain ⟨found, _, same⟩ := Option.bind_eq_some_iff.mp call
  cases same
  have interiorShorter := Dialect.length_of_call? enclosed
  have shorter := Dialect.length_of_mem_arguments member
  omega

def parseBlock? (engine : Engine) (text : List Char)
    (parse : (part : List Char) → part.length < text.length → Except SyntaxError Tree) :
    Option (Except SyntaxError Tree) :=
  match enclosed : engine.dialect.enclosed? engine.dialect.blockOpen engine.dialect.blockClose
      text with
  | some inner => some ((parse inner (Dialect.length_of_enclosed? enclosed)).map Tree.block)
  | none => none

def parseOperands? (engine : Engine) (text : List Char)
    (parse : (part : List Char) → part.length < text.length → Except SyntaxError Tree)
    (entry : OperatorEntry) : Option (Except SyntaxError (List Tree)) :=
  match fragments : entry.fragments? engine.dialect text with
  | some parts => some (parseAll parts fun part member =>
    parse part (OperatorEntry.length_of_mem_fragments? fragments member))
  | none => none

/-- A text as a call, or the error to report. -/
def parseCall (engine : Engine) (text : List Char)
    (parse : (part : List Char) → part.length < text.length → Except SyntaxError Tree)
    (remembered : Option SyntaxError) : Except (Option SyntaxError) Tree :=
  match call : engine.call? text with
  | some (function, parts) =>
    match parseAll parts fun part member => parse part (length_of_call? call member) with
    | .ok operands =>
      if function.accepts operands then .ok (.call function operands) else .error remembered
    | .error error => .error (SyntaxError.remember remembered error)
  | none => .error remembered

/-- A text as a literal, or the error to report. -/
def parseLiteral (engine : Engine) (text : List Char) (remembered : Option SyntaxError) :
    Except SyntaxError Tree :=
  match engine.dialect.literal? text with
  | some value => .ok (.ofValue value)
  | none => .error (remembered.getD ⟨text⟩)

/-- The expression that a text without blanks at its ends spells, its fragments read by `parse`. -/
def parseTrimmed (engine : Engine) (text : List Char)
    (parse : (part : List Char) → part.length < text.length → Except SyntaxError Tree) :
    Except SyntaxError Tree :=
  match engine.parseBlock? text parse with
  | some block => block
  | none => match engine.named? text with
    | some tree => .ok tree
    | none => match firstOperation (engine.parseOperands? text parse) none engine.operators with
      | .ok tree => .ok tree
      | .error remembered => match engine.parseCall text parse remembered with
        | .ok tree => .ok tree
        | .error remembered => engine.parseLiteral text remembered

def parse (engine : Engine) (text : List Char) : Except SyntaxError Tree :=
  engine.parseTrimmed (Text.trim text) fun part _ => parse engine part
termination_by text.length
decreasing_by
  have trimmed := Text.length_trim_le text
  omega

end Engine

end Reckoner
