import Reckoner.Engine.Basic

/-! # The standard library

The constants, operators and functions that an engine has before anything else is registered. The
subtraction folds by the registered addition and negation, the division by the registered
multiplication. All objects carry consecutive tags.
-/

namespace Reckoner

namespace Library

def constants (base : Tag) : Register Constant := .ofList
  [("PI", ⟨base, .double, .double Double.pi⟩), ("E", ⟨base + 1, .double, .double Double.e⟩)]

def additionTag (base : Tag) : Tag := base + 11

def multiplicationTag (base : Tag) : Tag := base + 14

def negationTag (base : Tag) : Tag := base + 17

/-- The operators, loosest first. Longer comparison tokens precede the tokens they begin with. -/
def operators (base : Tag) : List OperatorEntry :=
  [⟨"|", base + 2, .or⟩,
    ⟨"&", base + 3, .and⟩,
    ⟨"!", base + 4, .not⟩,
    ⟨"!=", base + 5, .comparison .notEqual⟩,
    ⟨"<=", base + 6, .comparison .lessOrEqual⟩,
    ⟨">=", base + 7, .comparison .greaterOrEqual⟩,
    ⟨"=", base + 8, .comparison .equal⟩,
    ⟨"<", base + 9, .comparison .less⟩,
    ⟨">", base + 10, .comparison .greater⟩,
    ⟨"+", additionTag base, .addition⟩,
    ⟨"+", base + 12, .concatenation⟩,
    ⟨"-", base + 13, .subtraction (additionTag base) (negationTag base)⟩,
    ⟨"*", multiplicationTag base, .multiplication⟩,
    ⟨"/", base + 15, .division (multiplicationTag base)⟩,
    ⟨"²", base + 16, .square⟩,
    ⟨"-", negationTag base, .negation⟩]

/-- The functions, one of which answers the instant `now`. -/
def functions (base : Tag) (now : DateTime) : Register Function := .ofList
  [("If", ⟨base + 18, .conditional⟩),
    ("IsNull", ⟨base + 19, .isNull⟩),
    ("NoNull", ⟨base + 20, .noNull⟩),
    ("NoZero", ⟨base + 21, .noZero⟩),
    ("Hexa", ⟨base + 22, .hexadecimal⟩),
    ("Sqrt", ⟨base + 23, .squareRoot⟩),
    ("Type", ⟨base + 24, .kindName⟩),
    ("Calculate", ⟨base + 25, .evaluates⟩),
    ("Now", ⟨base + 26, .now now⟩),
    ("Abs", ⟨base + 27, .absolute⟩),
    ("Round", ⟨base + 28, .round⟩),
    ("Min", ⟨base + 29, .least⟩),
    ("Max", ⟨base + 30, .greatest⟩),
    ("Length", ⟨base + 31, .length⟩),
    ("Upper", ⟨base + 32, .upper⟩),
    ("Lower", ⟨base + 33, .lower⟩)]

def size : Nat := 34

end Library

/-- The engine with the standard library and dialect, its objects tagged from `base` on. -/
def Engine.standard (base : Tag) (now : DateTime) : Engine :=
  ⟨Dialect.standard, Library.constants base, .empty, Library.functions base now,
    Library.operators base⟩

end Reckoner
