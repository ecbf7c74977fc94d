import Reckoner.Toml.Scan
import Reckoner.Toml.Table

/-! # Reading TOML documents

A document is a sequence of lines: headings of tables, assignments, comments and blanks. Its tables
become objects whose members stand in the order in which the document mentions them.
-/

namespace Reckoner

namespace Toml

def truth? : List Char → Option (Json × List Char)
  | 't' :: 'r' :: 'u' :: 'e' :: rest => some (.boolean true, rest)
  | 'f' :: 'a' :: 'l' :: 's' :: 'e' :: rest => some (.boolean false, rest)
  | _ => none

/-- A value that holds no others. -/
def scalar? (text : List Char) : Option (Json × List Char) :=
  (((quoted? text).map fun (content, rest) => (Json.string (String.ofList content), rest)).or
    (truth? text)).or ((moment? text).or ((float? text).or (integer? text)))

mutual

def value? : (steps : Nat) → List Char → Option (Json × List Char)
  | 0, _ => none
  | steps + 1, text =>
    match text with
    | '[' :: rest => items? steps [] rest
    | '\x7b' :: rest => match skipSpace rest with
      | '\x7d' :: rest => some (.object [], rest)
      | rest => pairs? steps [] rest
    | _ => scalar? text

/-- An array after its first items, which are given backwards. -/
def items? : (steps : Nat) → List Json → List Char → Option (Json × List Char)
  | 0, _, _ => none
  | steps + 1, done, text =>
    match skipComments text.length text with
    | ']' :: rest => some (.array done.reverse, rest)
    | text => do
      let (item, rest) ← value? steps text
      match skipComments rest.length rest with
      | ',' :: rest => items? steps (item :: done) rest
      | ']' :: rest => some (.array (item :: done).reverse, rest)
      | _ => none

/-- A table on one line after its first entries. -/
def pairs? : (steps : Nat) → Entries → List Char → Option (Json × List Char)
  | 0, _, _ => none
  | steps + 1, entries, text => do
    let (path, rest) ← key? text
    let (value, rest) ← value? steps (skipSpace (← afterMark? '=' rest))
    let entries ← entries.assign? path value
    match skipSpace rest with
    | ',' :: rest => pairs? steps entries rest
    | '\x7d' :: rest => some (.object (membersOf entries), rest)
    | _ => none

end

/-- The draft after the line in front of a text, and the lines that follow. Values nest at most
seventy-nine containers deep. -/
def line? (draft : Draft) (text : List Char) : Option (Draft × List Char) :=
  match text with
  | '[' :: '[' :: rest => do
    let (path, rest) ← key? rest
    let rest ← afterTail? (← afterMark? ']' (← afterMark? ']' rest))
    some (← draft.openItem? path, rest)
  | '[' :: rest => do
    let (path, rest) ← key? rest
    let rest ← afterTail? (← afterMark? ']' rest)
    some (← draft.openTable? path, rest)
  | _ => do
    let (path, rest) ← key? text
    let (value, rest) ← value? (2 * text.length + 2) (skipSpace (← afterMark? '=' rest))
    let rest ← afterTail? rest
    if value.isSound 79 then some (← draft.assign? path value, rest) else none

/-- The draft after all lines of a text, of which there are at most `steps`. -/
def lines? : (steps : Nat) → Draft → List Char → Option Draft
  | 0, _, _ => none
  | steps + 1, draft, text =>
    if (skipSpace text).isEmpty then some draft
    else match afterTail? text with
      | some rest => lines? steps draft rest
      | none => do
        let (draft, rest) ← line? draft (skipSpace text)
        lines? steps draft rest

def skipMark : List Char → List Char
  | '\uFEFF' :: rest => rest
  | text => text

def read? (text : List Char) : Option Json := do
  let draft ← lines? (text.length + 1) Draft.empty (skipMark text)
  some (.object (membersOf (← draft.finish?)))

end Toml

end Reckoner
