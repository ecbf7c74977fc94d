/-! # Kinds of values

The eight kinds of values and the coercions between them: nothing but null becomes anything, longs
become doubles, dates and times become moments. Two kinds that go together have one of them as their
common kind.
-/

namespace Reckoner

/-- What a value is, or what an expression is declared to be. -/
inductive Kind where
  | boolean
  | long
  | double
  | date
  | time
  | dateTime
  | string
  | null
deriving DecidableEq

namespace Kind

def all : List Kind := [boolean, long, double, date, time, dateTime, string, null]

/-- The name by which expressions and messages call a kind. -/
def name : Kind → String
  | boolean => "Boolean"
  | long => "Long"
  | double => "Double"
  | date => "Date"
  | time => "Time"
  | dateTime => "DateTime"
  | string => "String"
  | null => "Null"

def ofName? (text : String) : Option Kind := all.find? fun kind => kind.name == text

/-- Longs and doubles are the numeric kinds. -/
def isNumeric : Kind → Bool
  | long | double => true
  | _ => false

/-- Values of the kind `source` can be coerced into this kind. -/
def takes (kind source : Kind) : Bool :=
  kind == source || source == null ||
    match kind with
    | double => source.isNumeric
    | dateTime => source == date || source == time
    | _ => false

/-- One of the kinds takes the other. -/
def compatible (left right : Kind) : Bool := left.takes right || right.takes left

/-- The one of two kinds that takes the other. -/
def join? (left right : Kind) : Option Kind :=
  if left.takes right then some left else if right.takes left then some right else none

/-- Every kind of a list goes together with the first, though not necessarily with each other. -/
def compatibleAll : List Kind → Bool
  | [] => true
  | first :: rest => rest.all first.compatible

/-- The common kind of a list, found from the left. -/
def joinAll? : List Kind → Option Kind
  | [] => none
  | first :: rest => rest.foldlM join? first

/-- The common kind of a list, null when there is none. -/
def joined (kinds : List Kind) : Kind := (joinAll? kinds).getD null

/-- The kind in which numbers of these kinds are computed: doubles if there is one, else longs. -/
def promoted (kinds : List Kind) : Kind := if kinds.contains double then double else long

def takesAll (kind : Kind) (kinds : List Kind) : Bool := kinds.all kind.takes

/-- Every kind takes itself. -/
theorem takes_self (kind : Kind) : kind.takes kind = true := by cases kind <;> rfl

/-- Null goes into every kind. -/
theorem takes_null (kind : Kind) : kind.takes null = true := by cases kind <;> rfl

/-- Null goes together with every kind. -/
theorem compatible_of_eq_or_null {left right first second : Kind}
    (together : left.compatible right = true) (here : first = left ∨ first = null)
    (there : second = right ∨ second = null) : first.compatible second = true := by
  rcases here with rfl | rfl
  · rcases there with rfl | rfl
    · exact together
    · rw [compatible, takes_null, Bool.true_or]
  · rw [compatible, takes_null, Bool.or_true]

/-- Two kinds have a common one exactly if they go together. -/
theorem isSome_join? (left right : Kind) : (join? left right).isSome = left.compatible right := by
  cases left <;> cases right <;> rfl

end Kind

end Reckoner
