import Reckoner.Text.Blank
import Reckoner.Text.Case

/-! # Registers of names

A register keeps objects under names, in the order in which the names first appeared. Names are the
same regardless of case and of blanks around them; registering a name again takes its old place with
the new spelling. One object may stand under several names, and is then called by the first.
-/

namespace Reckoner

/-- What two spellings of one name share. -/
def nameKey (name : List Char) : List Char := Text.lower (Text.trim name)

structure Entry (α : Type) where
  name : String
  item : α

def Entry.key {α : Type} (entry : Entry α) : List Char := nameKey entry.name.toList

/-- Entries in the order in which their names first appeared. -/
structure Register (α : Type) where
  entries : List (Entry α)

namespace Register

variable {α : Type}

def empty : Register α := ⟨[]⟩

/-- An entry put in place of the one with the same key, or behind all others. -/
def put (entry : Entry α) : List (Entry α) → List (Entry α)
  | [] => [entry]
  | other :: rest => if other.key = entry.key then entry :: rest else other :: put entry rest

def insert (register : Register α) (name : String) (item : α) : Register α :=
  ⟨put ⟨Text.trimString name, item⟩ register.entries⟩

def ofList (entries : List (String × α)) : Register α :=
  entries.foldl (fun register entry => register.insert entry.1 entry.2) empty

def find? (register : Register α) (text : List Char) : Option α :=
  (register.entries.find? fun entry => entry.key == nameKey text).map Entry.item

def nameOf? [DecidableEq α] (register : Register α) (item : α) : Option String :=
  (register.entries.find? fun entry => entry.item == item).map Entry.name

end Register

end Reckoner
