import Reckoner.Dialect.Basic

/-! # Nesting

A text is scanned from the left with one piece of knowledge: how deep in blocks and calls, and
whether inside quotes, the next character stands. Blocks and calls nest in each other without regard
to which delimiter closes which, and inside quotes only the closing quote counts.
-/

namespace Reckoner

/-- Where a character stands. -/
structure Nesting where
  depth : Int
  isQuoted : Bool
deriving DecidableEq

namespace Nesting

/-- Outside of all blocks, calls and quotes. -/
def surface : Nesting := ⟨0, false⟩

/-- Where the character after `c` stands. -/
def after (dialect : Dialect) (nesting : Nesting) (c : Char) : Nesting :=
  if nesting.isQuoted then ⟨nesting.depth, c ≠ dialect.stringClose⟩
  else if c = dialect.stringOpen then ⟨nesting.depth, true⟩
  else if c = dialect.blockOpen ∨ c = dialect.functionOpen then ⟨nesting.depth + 1, false⟩
  else if c = dialect.blockClose ∨ c = dialect.functionClose then ⟨nesting.depth - 1, false⟩
  else nesting

end Nesting

namespace Dialect

/-- The distance to the first character that ends the outermost block or call. -/
def closingFrom? (dialect : Dialect) (nesting : Nesting) : List Char → Option Nat
  | [] => none
  | c :: rest =>
    let inside := nesting.after dialect c
    if nesting.depth = 1 ∧ inside.depth = 0 then some 0
    else (closingFrom? dialect inside rest).map (· + 1)

/-- The position of the character that ends the block or call with which the text begins. -/
def closing? (dialect : Dialect) (text : List Char) : Option Nat :=
  dialect.closingFrom? Nesting.surface text

/-- The text between two delimiters that belong to each other and enclose the whole. -/
def enclosed? (dialect : Dialect) (opening closing : Char) (text : List Char) :
    Option (List Char) :=
  match text with
  | [] => none
  | c :: rest =>
    if c = opening ∧ rest.getLast? = some closing ∧ dialect.closing? text = some rest.length then
      some rest.dropLast
    else none

/-- What delimiters enclose is shorter than the text. -/
theorem length_of_enclosed? {dialect : Dialect} {opening closing : Char} {text inner : List Char}
    (enclosed : dialect.enclosed? opening closing text = some inner) :
    inner.length < text.length := by
  unfold enclosed? at enclosed
  split at enclosed
  · exact absurd enclosed nofun
  · split at enclosed
    · cases enclosed
      simp only [List.length_dropLast, List.length_cons]
      omega
    · exact absurd enclosed nofun

end Dialect

end Reckoner
