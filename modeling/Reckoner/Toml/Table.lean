import Reckoner.Json.Basic

/-! # Tables under construction

A document is built up from assignments and headings. A table comes into being by being assigned to,
by a heading of its own, or by being passed through on the way to another table, and how it came
into being decides what may still be added to it: nothing is ever assigned twice, and no table has
two headings.
-/

namespace Reckoner

namespace Toml

/-- What stands under a key. -/
inductive Node where
  /-- An assigned value, which is complete. -/
  | leaf (value : Json)
  /-- A table. It is implied if it has no heading, and dotted if assignments went through it. -/
  | table (isImplied isDotted : Bool) (entries : List (String × Node))
  /-- The tables with one heading that is given once for each. -/
  | tables (items : List (List (String × Node)))

/-- The entries of a table in order. -/
abbrev Entries := List (String × Node)

mutual

def Node.toJson : Node → Json
  | .leaf value => value
  | .table _ _ entries => .object (membersOf entries)
  | .tables items => .array (objectsOf items)

def membersOf : List (String × Node) → List (String × Json)
  | [] => []
  | (key, node) :: rest => (key, node.toJson) :: membersOf rest

def objectsOf : List (List (String × Node)) → List Json
  | [] => []
  | entries :: rest => .object (membersOf entries) :: objectsOf rest

end

namespace Entries

/-- The entries with another node under a key that is there. -/
def replace (key : String) (node : Node) (entries : Entries) : Entries :=
  entries.map fun entry => if entry.1 = key then (key, node) else entry

def erase (key : String) (entries : Entries) : Entries := entries.filter fun entry => entry.1 != key

/-- The entries after a change of the table that a path leads to. Tables that are missing on the way
are made, as dotted ones for an assignment, and an assignment passes through implied tables only.
`change` is told whether the table is dotted. -/
def within? (forAssignment : Bool) (change : Bool → Entries → Option Entries)
    (isDotted : Bool) : (path : List String) → (entries : Entries) → Option Entries
  | [], entries => change isDotted entries
  | key :: path, entries =>
    match entries.lookup key with
    | none => do
      let inner ← within? forAssignment change forAssignment path []
      some (entries ++ [(key, .table true forAssignment inner)])
    | some (.leaf _) => none
    | some (.tables items) => do
      let inner ← within? forAssignment change false path (← items.getLast?)
      some (replace key (.tables (items.dropLast ++ [inner])) entries)
    | some (.table isImplied isDotted inner) =>
      if forAssignment && !isImplied then none
      else do
        let inner ← within? forAssignment change isDotted path inner
        some (replace key (.table isImplied isDotted inner) entries)

/-- A new entry behind all others. -/
def add? (key : String) (node : Node) (entries : Entries) : Option Entries :=
  if (entries.lookup key).isSome then none else some (entries ++ [(key, node)])

def assign? (path : List String) (value : Json) (entries : Entries) : Option Entries := do
  let key ← path.getLast?
  within? true (fun isDotted inner =>
    if isDotted == path.dropLast.isEmpty then none else add? key (.leaf value) inner)
    false path.dropLast entries

end Entries

/-- A document under construction: the finished tables, and the one that is being assigned to. -/
structure Draft where
  root : Entries
  /-- Where the current table goes, at the root if the path is empty. -/
  path : List String
  /-- The current table is one of several with its heading. -/
  isItem : Bool
  current : Entries

namespace Draft

def empty : Draft := ⟨[], [], false, []⟩

/-- The finished tables with the current one among them. -/
def finish? (draft : Draft) : Option Entries :=
  match draft.path.getLast? with
  | none => some draft.current
  | some key =>
    Entries.within? false (fun _ entries =>
      if draft.isItem then
        match entries.lookup key with
        | none => some (entries ++ [(key, .tables [draft.current])])
        | some (.tables items) =>
          some (Entries.replace key (.tables (items ++ [draft.current])) entries)
        | some _ => none
      else Entries.add? key (.table false false draft.current) entries)
      false draft.path.dropLast draft.root

/-- What a table that gets its heading now holds already. -/
def opened? : Option Node → Option Entries
  | none => some []
  | some (.table true false entries) => some entries
  | some _ => none

/-- The node that a path leads to, the last of several tables on the way. -/
def nodeAt? : (path : List String) → (entries : Entries) → Option Node
  | [], _ => none
  | [key], entries => entries.lookup key
  | key :: path, entries =>
    match entries.lookup key with
    | some (.table _ _ inner) => nodeAt? path inner
    | some (.tables items) => items.getLast?.bind (nodeAt? path)
    | _ => none

/-- The draft after a heading. A table that was implied so far moves behind its neighbours. -/
def openTable? (draft : Draft) (path : List String) : Option Draft := do
  let root ← draft.finish?
  let key ← path.getLast?
  let current ← opened? (nodeAt? path root)
  let root ← Entries.within? false (fun _ entries => some (Entries.erase key entries))
    false path.dropLast root
  some ⟨root, path, false, current⟩

/-- The draft after a heading that may be repeated. -/
def openItem? (draft : Draft) (path : List String) : Option Draft := do
  some ⟨← draft.finish?, path, true, []⟩

def assign? (draft : Draft) (path : List String) (value : Json) : Option Draft := do
  some { draft with current := ← draft.current.assign? path value }

end Draft

end Toml

end Reckoner
