import Reckoner.Json.Basic
import Reckoner.Number.Layout

/-! # Writing documents

The compact form of a document: no blanks, members in the order of their names, of a repeated name
the last value only.
-/

namespace Reckoner

namespace Json

/-- Doubles are positional from five places behind the point up to sixteen digits, show a point, and
go to the even neighbour on a tie. -/
def layout : Layout where
  positional exponent := -5 ≤ exponent && exponent < 16
  pointZero := true
  plusSign := true
  tie := .toEven

/-- A character inside quotes. -/
def escaped (c : Char) : List Char :=
  match c with
  | '"' => ['\\', '"']
  | '\\' => ['\\', '\\']
  | '\x08' => ['\\', 'b']
  | '\x0c' => ['\\', 'f']
  | '\n' => ['\\', 'n']
  | '\r' => ['\\', 'r']
  | '\t' => ['\\', 't']
  | _ =>
    if c.toNat < 0x20 then
      ['\\', 'u', '0', '0'] ++
        [Nat.digitChar (c.toNat / 16), Nat.digitChar (c.toNat % 16)]
    else [c]

def quote (text : String) : List Char := '"' :: text.toList.flatMap escaped ++ ['"']

/-- A text put in among members that are sorted by name, in place of an equal name. -/
def insertSorted (name : String) (text : List Char) :
    List (String × List Char) → List (String × List Char)
  | [] => [(name, text)]
  | (other, shown) :: rest =>
    if name < other then (name, text) :: (other, shown) :: rest
    else if name = other then (name, text) :: rest
    else (other, shown) :: insertSorted name text rest

mutual

def compact : Json → List Char
  | .null => ['n', 'u', 'l', 'l']
  | .boolean true => ['t', 'r', 'u', 'e']
  | .boolean false => ['f', 'a', 'l', 's', 'e']
  | .integer value => Numeral.ofInt 10 value
  | .float value => layout.text value
  | .string text => quote text
  | .array items => '[' :: List.intercalate [','] (compactItems items) ++ [']']
  | .object members =>
    let sorted := compactMembers [] members
    '\x7b' :: List.intercalate [','] (sorted.map fun (name, text) => quote name ++ ':' :: text) ++
      ['\x7d']
  | .valueless => []

def compactItems : List Json → List (List Char)
  | [] => []
  | item :: rest => compact item :: compactItems rest

def compactMembers (done : List (String × List Char)) :
    List (String × Json) → List (String × List Char)
  | [] => done
  | (name, value) :: rest => compactMembers (insertSorted name (compact value) done) rest

end

end Json

end Reckoner
