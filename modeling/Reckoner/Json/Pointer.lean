import Reckoner.Json.Basic
import Reckoner.Number.Numeral

/-! # Pointers into documents

A pointer is empty, or a sequence of steps each behind a slash. A step names a member of an object
or gives a position in an array; `~1` in it stands for a slash and `~0` for a tilde.
-/

namespace Reckoner

namespace Json

/-- The parts of a text between slashes. -/
def segments : List Char → List (List Char)
  | [] => [[]]
  | '/' :: rest => [] :: segments rest
  | c :: rest => match segments rest with
    | [] => [[c]]
    | first :: others => (c :: first) :: others

/-- The text with every `~` and `mark` replaced by one character. -/
def replaceTilde (mark meant : Char) : List Char → List Char
  | '~' :: c :: rest =>
    if c = mark then meant :: replaceTilde mark meant rest
    else '~' :: replaceTilde mark meant (c :: rest)
  | c :: rest => c :: replaceTilde mark meant rest
  | [] => []
termination_by text => text.length

/-- The step that a segment spells: slashes first, then tildes. -/
def step (segment : List Char) : List Char :=
  replaceTilde '0' '~' (replaceTilde '1' '/' segment)

/-- A position in an array: digits without sign and without a superfluous zero. -/
def position? (step : List Char) : Option Nat :=
  if step.head? = some '0' ∧ step.length ≠ 1 then none
  else if step.all Char.isDigit then
    (Numeral.readNat? 10 step).filter (· < 18446744073709551616)
  else none

/-- The part of a document that one step leads to. -/
def child? (step : List Char) : Json → Option Json
  | .object members => lastNamed? (String.ofList step) members
  | .array items => (position? step).bind (items[·]?)
  | _ => none

def at? (document : Json) (pointer : String) : Option Json :=
  match pointer.toList with
  | [] => some document
  | '/' :: rest => ((segments rest).map step).foldlM (fun part step => child? step part) document
  | _ => none

end Json

end Reckoner
