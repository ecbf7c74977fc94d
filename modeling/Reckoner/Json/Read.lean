import Reckoner.Json.Basic
import Reckoner.Number.Reader

/-! # Reading documents

The JSON grammar: one value between blanks, strict numbers, strings without control characters. A
decimal is read as a word of leading digits times one power of ten, so it may differ from the
nearest double in the last place.
-/

namespace Reckoner

namespace Json

/-- The four characters that separate tokens. -/
def isSpace (c : Char) : Bool := c == ' ' || c == '\n' || c == '\t' || c == '\r'

/-- The text from its first token on. -/
def skipSpace (text : List Char) : List Char := text.dropWhile isSpace

/-- The greatest number of 64 bits without sign. -/
def greatestWord : Nat := 18446744073709551615

/-- Digits appended to `word` as long as it stays a word, and how many digits were left. -/
def absorb (word : Nat) : List Char → Nat × Nat
  | [] => (word, 0)
  | c :: rest =>
    let longer := word * 10 + (c.toNat - 48)
    if longer ≤ greatestWord then absorb longer rest else (word, rest.length + 1)

/-- A double times a power of ten, in steps of at most 308 decimal places. A product beyond all
doubles is none. -/
def scaled? (x : Double) (exponent : Int) : Option Double :=
  if -308 ≤ exponent then
    if exponent < 0 then some (x.div (Double.ofDecimal 1 (-exponent)))
    else if exponent ≤ 308 then
      let product := x.mul (Double.ofDecimal 1 exponent)
      if product.isInfinite then none else some product
    else if x.isZero then some x
    else none
  else if x.isZero then some x
  else scaled? (x.div (Double.ofDecimal 1 308)) (exponent + 308)
termination_by (-exponent).toNat
decreasing_by omega

/-- The double of a decimal, given by its digits before and after the point and its exponent. -/
def decimal? (whole fraction : List Char) (exponent : Int) : Option Double :=
  let (word, unread) := absorb 0 whole
  let (word, unreadFraction) := absorb word fraction
  scaled? (Double.ofInt word)
    (unread - (fraction.length - unreadFraction : Nat) + exponent)

/-- A double under an optional sign, or no value. -/
def ofDouble? (isNegative : Bool) : Option Double → Json
  | some x => .float (if isNegative then x.neg else x)
  | none => .valueless

/-- The number of a run of digits that has neither point nor exponent. -/
def ofDigits (isNegative : Bool) (digits : List Char) : Json :=
  let n := digitsValue digits
  if isNegative then
    if 0 < n ∧ n ≤ 9223372036854775808 then .integer (-n)
    else ofDouble? true (decimal? digits [] 0)
  else if n ≤ greatestWord then .integer n
  else ofDouble? false (decimal? digits [] 0)

def exponent? (text : List Char) : Option (Option Int × List Char) :=
  match text with
  | mark :: rest =>
    if mark = 'e' ∨ mark = 'E' then
      let (sign, unsigned) : Int × List Char := match rest with
        | '-' :: more => (-1, more)
        | '+' :: more => (1, more)
        | _ => (1, rest)
      let (digits, rest) := spanDigits unsigned
      if digits.isEmpty then none else some (some (sign * digitsValue digits), rest)
    else some (none, text)
  | [] => some (none, text)

/-- The fraction in front of a text, empty without a point. -/
def fraction? (text : List Char) : Option (List Char × List Char) :=
  match text with
  | '.' :: rest =>
    let (digits, rest) := spanDigits rest
    if digits.isEmpty then none else some (digits, rest)
  | _ => some ([], text)

def number? (text : List Char) : Option (Json × List Char) := do
  let (isNegative, unsigned) := match text with
    | '-' :: rest => (true, rest)
    | _ => (false, text)
  let (whole, rest) := spanDigits unsigned
  if whole.isEmpty || (1 < whole.length && whole.head? == some '0') then none
  else
    let (fraction, rest) ← fraction? rest
    let (exponent, rest) ← exponent? rest
    match fraction, exponent with
    | [], none => some (ofDigits isNegative whole, rest)
    | _, _ => some (ofDouble? isNegative (decimal? whole fraction (exponent.getD 0)), rest)

/-- Four hexadecimal digits in front of a text. -/
def unit? (text : List Char) : Option Nat :=
  if (text.take 4).length = 4 then Numeral.readNat? 16 (text.take 4) else none

/-- The character that a letter after a backslash stands for. -/
def escape? : Char → Option Char
  | '"' => some '"'
  | '\\' => some '\\'
  | '/' => some '/'
  | 'b' => some '\x08'
  | 'f' => some '\x0c'
  | 'n' => some '\n'
  | 'r' => some '\r'
  | 't' => some '\t'
  | _ => none

/-- The second half of a surrogate pair in front of a text. -/
def lowSurrogate? : List Char → Option Nat
  | '\\' :: 'u' :: rest => do
    let unit ← unit? rest
    if 0xDC00 ≤ unit ∧ unit < 0xE000 then some unit else none
  | _ => none

/-- The rest of a string after its opening quote, with `done` read already, backwards. A string
with half of a surrogate pair has no text. -/
def stringAfter? (done : Option (List Char)) (text : List Char) :
    Option (Option String × List Char) :=
  match text with
  | [] => none
  | '"' :: rest => some (done.map fun chars => String.ofList chars.reverse, rest)
  | '\\' :: 'u' :: rest => do
    let unit ← unit? rest
    if unit < 0xD800 ∨ 0xE000 ≤ unit then
      stringAfter? (done.map (Char.ofNat unit :: ·)) (rest.drop 4)
    else match if unit < 0xDC00 then lowSurrogate? (rest.drop 4) else none with
      | some low =>
        let code := 0x10000 + (unit - 0xD800) * 0x400 + (low - 0xDC00)
        stringAfter? (done.map (Char.ofNat code :: ·)) (rest.drop 10)
      | none => stringAfter? none (rest.drop 4)
  | '\\' :: c :: rest => do
    let meant ← escape? c
    stringAfter? (done.map (meant :: ·)) rest
  | c :: rest => if c.toNat < 0x20 then none else stringAfter? (done.map (c :: ·)) rest
termination_by text.length
decreasing_by all_goals simp only [List.length_cons, List.length_drop]; omega

def consItem (item : Json) : Json → Json
  | .array items => .array (item :: items)
  | other => other

/-- An object with this member in front. A name without a text leaves the object without value. -/
def consMember (name : Option String) (value : Json) : Json → Json
  | .object members => match name with
    | some name => .object ((name, value) :: members)
    | none => .valueless
  | other => other

mutual

def valueWithin? : (steps : Nat) → List Char → Option (Json × List Char)
  | 0, _ => none
  | steps + 1, text =>
    match skipSpace text with
    | 'n' :: 'u' :: 'l' :: 'l' :: rest => some (.null, rest)
    | 't' :: 'r' :: 'u' :: 'e' :: rest => some (.boolean true, rest)
    | 'f' :: 'a' :: 'l' :: 's' :: 'e' :: rest => some (.boolean false, rest)
    | '"' :: rest => (stringAfter? (some []) rest).map fun (text, rest) =>
      ((text.map Json.string).getD .valueless, rest)
    | '[' :: rest => match skipSpace rest with
      | ']' :: rest => some (.array [], rest)
      | rest => itemsWithin? steps rest
    | '\x7b' :: rest => match skipSpace rest with
      | '\x7d' :: rest => some (.object [], rest)
      | rest => membersWithin? steps rest
    | rest => number? rest

def itemsWithin? : (steps : Nat) → List Char → Option (Json × List Char)
  | 0, _ => none
  | steps + 1, text => do
    let (item, rest) ← valueWithin? steps text
    match skipSpace rest with
    | ',' :: rest => (itemsWithin? steps rest).map fun (items, rest) => (consItem item items, rest)
    | ']' :: rest => some (.array [item], rest)
    | _ => none

def membersWithin? : (steps : Nat) → List Char → Option (Json × List Char)
  | 0, _ => none
  | steps + 1, text =>
    match skipSpace text with
    | '"' :: rest => do
      let (name, rest) ← stringAfter? (some []) rest
      match skipSpace rest with
      | ':' :: rest =>
        let (value, rest) ← valueWithin? steps rest
        match skipSpace rest with
        | ',' :: rest => (membersWithin? steps rest).map fun (members, rest) =>
          (consMember name value members, rest)
        | '\x7d' :: rest => some (consMember name value (.object []), rest)
        | _ => none
      | _ => none
    | _ => none

end

def read? (text : List Char) : Option Json :=
  match valueWithin? (text.length + 1) text with
  | some (document, rest) => if (skipSpace rest).isEmpty then some document else none
  | none => none

/-- The document of a text all of whose parts denote values, with at most 127 nested containers. -/
def readSound? (text : List Char) : Option Json :=
  (read? text).filter (isSound 127)

end Json

end Reckoner
