import Reckoner.Number.Double

/-! # Documents

The tree of a JSON document. Objects keep their members as written, in order and with repetitions;
looking a name up finds its last occurrence. Numbers are integers when they are written as such and
fit a word, and doubles otherwise. A well-formed text may still denote no value: a number beyond
all doubles, or a string with half of a surrogate pair.
-/

namespace Reckoner

inductive Json where
  | null
  | boolean (value : Bool)
  | integer (value : Int)
  | float (value : Double)
  | string (text : String)
  | array (items : List Json)
  | object (members : List (String × Json))
  /-- What is well formed and denotes no value. -/
  | valueless
deriving Inhabited

namespace Json

def lastNamed? (name : String) : List (String × Json) → Option Json
  | [] => none
  | (key, value) :: rest => (lastNamed? name rest).or (if key = name then some value else none)

def member? (name : String) : Json → Option Json
  | .object members => lastNamed? name members
  | _ => none

mutual

/-- Every part of the document denotes a value, and containers are nested at most `depth` deep. -/
def isSound (depth : Nat) : Json → Bool
  | .array items => match depth with
    | 0 => false
    | depth + 1 => areSound depth items
  | .object members => match depth with
    | 0 => false
    | depth + 1 => areSoundMembers depth members
  | .valueless => false
  | _ => true

def areSound (depth : Nat) : List Json → Bool
  | [] => true
  | item :: rest => isSound depth item && areSound depth rest

def areSoundMembers (depth : Nat) : List (String × Json) → Bool
  | [] => true
  | (_, value) :: rest => isSound depth value && areSoundMembers depth rest

end

end Json

end Reckoner
