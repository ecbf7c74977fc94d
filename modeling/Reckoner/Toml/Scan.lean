import Reckoner.Calendar.Date
import Reckoner.Json.Basic
import Reckoner.Number.Numeral
import Reckoner.Number.Reader

/-! # Pieces of TOML texts

Blanks, comments, quoted texts, keys, numbers, dates and times, each read from the front of a text
together with what follows. A date or time is kept as a table with one entry under a name of its own:
nothing that reads documents expects one.
-/

namespace Reckoner

namespace Toml

/-- A blank or a tab. -/
def isSpace (c : Char) : Bool := c == ' ' || c == '\t'

def skipSpace (text : List Char) : List Char := text.dropWhile isSpace

/-- No control character other than a tab. -/
def isPlain (c : Char) : Bool := c == '\t' || (0x20 ≤ c.toNat && c.toNat != 0x7F)

def skipComment : List Char → List Char
  | '#' :: rest => rest.dropWhile isPlain
  | text => text

/-- What follows the end of a line. -/
def afterLine? : List Char → Option (List Char)
  | '\n' :: rest => some rest
  | '\r' :: '\n' :: rest => some rest
  | _ => none

/-- What follows a line of which only blanks and a comment are left. -/
def afterTail? (text : List Char) : Option (List Char) :=
  match skipComment (skipSpace text) with
  | [] => some []
  | rest => afterLine? rest

/-- The text without blanks and ends of lines in front, in at most `steps` lines. -/
def skipLines : (steps : Nat) → List Char → List Char
  | 0, text => text
  | steps + 1, text =>
    match afterLine? (skipSpace text) with
    | some rest => skipLines steps rest
    | none => skipSpace text

/-- The text without blanks, comments and ends of lines in front, in at most `steps` lines. -/
def skipComments : (steps : Nat) → List Char → List Char
  | 0, text => text
  | steps + 1, text =>
    match afterLine? (skipComment (skipSpace text)) with
    | some rest => skipComments steps rest
    | none => skipSpace text

/-- The character with the code that this many hexadecimal digits give. -/
def coded? (places : Nat) (text : List Char) : Option Char := do
  let digits := text.take places
  let code ← Numeral.readNat? 16 digits
  if digits.length = places ∧ (code < 0xD800 ∨ (0xE000 ≤ code ∧ code < 0x110000)) then
    some (Char.ofNat code)
  else none

/-- The character that stands behind a backslash, and how long its spelling is. -/
def escaped? : List Char → Option (Char × Nat)
  | 'b' :: _ => some ('\x08', 1)
  | 't' :: _ => some ('\t', 1)
  | 'n' :: _ => some ('\n', 1)
  | 'f' :: _ => some ('\x0c', 1)
  | 'r' :: _ => some ('\r', 1)
  | '"' :: _ => some ('"', 1)
  | '\\' :: _ => some ('\\', 1)
  | 'u' :: rest => (coded? 4 rest).map fun c => (c, 5)
  | 'U' :: rest => (coded? 8 rest).map fun c => (c, 9)
  | _ => none

/-- A text on one line after its opening double quote. -/
def basicAfter? : (steps : Nat) → (done text : List Char) → Option (List Char × List Char)
  | 0, _, _ => none
  | steps + 1, done, text =>
    match text with
    | [] => none
    | '"' :: rest => some (done.reverse, rest)
    | '\\' :: rest => do
      let (c, used) ← escaped? rest
      basicAfter? steps (c :: done) (rest.drop used)
    | c :: rest => if isPlain c then basicAfter? steps (c :: done) rest else none

/-- The number of quotes in front of a text that end or belong to a text of several lines. -/
def countQuotes (quote : Char) (text : List Char) : Nat :=
  ((text.take 5).takeWhile (· == quote)).length

/-- A text of several lines after its opening quotes. Three quotes end it, after at most two more. A
text in single quotes knows no escapes. -/
def longAfter? (quote : Char) : (steps : Nat) → (done text : List Char) →
    Option (List Char × List Char)
  | 0, _, _ => none
  | steps + 1, done, text =>
    let quotes := countQuotes quote text
    if 3 ≤ quotes then
      some (done.reverse ++ List.replicate (quotes - 3) quote, text.drop quotes)
    else match afterLine? text with
      | some rest => longAfter? quote steps ('\n' :: done) rest
      | none => match text with
        | [] => none
        | c :: rest =>
          if c = '\\' ∧ quote = '"' then
            match afterLine? (skipSpace rest) with
            | some more => longAfter? quote steps done (skipLines more.length more)
            | none => do
              let (c, used) ← escaped? rest
              longAfter? quote steps (c :: done) (rest.drop used)
          else if isPlain c then longAfter? quote steps (c :: done) rest
          else none

def literalAfter? (text : List Char) : Option (List Char × List Char) :=
  match text.dropWhile fun c => isPlain c && c != '\'' with
  | '\'' :: rest => some (text.takeWhile fun c => isPlain c && c != '\'', rest)
  | _ => none

/-- What follows the first end of a line of a text, which does not count if it comes first. -/
def afterOpening (text : List Char) : List Char := (afterLine? text).getD text

def quoted? (text : List Char) : Option (List Char × List Char) :=
  match text with
  | '"' :: '"' :: '"' :: rest => longAfter? '"' (rest.length + 1) [] (afterOpening rest)
  | '\'' :: '\'' :: '\'' :: rest => longAfter? '\'' (rest.length + 1) [] (afterOpening rest)
  | '"' :: rest => basicAfter? (rest.length + 1) [] rest
  | '\'' :: rest => literalAfter? rest
  | _ => none

/-- A character of a key without quotes. -/
def isKeyCharacter (c : Char) : Bool := c.isAlphanum || c == '_' || c == '-'

def simpleKey? (text : List Char) : Option (String × List Char) :=
  match text with
  | '"' :: rest => (basicAfter? (rest.length + 1) [] rest).map fun (key, rest) =>
    (String.ofList key, rest)
  | '\'' :: rest => (literalAfter? rest).map fun (key, rest) => (String.ofList key, rest)
  | _ =>
    if (text.takeWhile isKeyCharacter).isEmpty then none
    else some (String.ofList (text.takeWhile isKeyCharacter), text.dropWhile isKeyCharacter)

/-- Keys with dots between them, in at most `steps` parts. -/
def dottedKey? : (steps : Nat) → List Char → Option (List String × List Char)
  | 0, _ => none
  | steps + 1, text => do
    let (key, rest) ← simpleKey? (skipSpace text)
    match skipSpace rest with
    | '.' :: rest => (dottedKey? steps rest).map fun (keys, rest) => (key :: keys, rest)
    | rest => some ([key], rest)

/-- A key of at most seventy-nine parts and the blanks behind it. -/
def key? (text : List Char) : Option (List String × List Char) := dottedKey? 79 text

/-- Digits of a radix, with single underscores between them, read after other digits. -/
def moreDigits (isDigit : Char → Bool) : List Char → List Char × List Char
  | '_' :: c :: rest =>
    if isDigit c then
      let (digits, rest) := moreDigits isDigit rest
      (c :: digits, rest)
    else ([], '_' :: c :: rest)
  | c :: rest =>
    if isDigit c then
      let (digits, rest) := moreDigits isDigit rest
      (c :: digits, rest)
    else ([], c :: rest)
  | [] => ([], [])

/-- One or more digits with single underscores between them. -/
def digits? (isDigit : Char → Bool) : List Char → Option (List Char × List Char)
  | c :: rest =>
    if isDigit c then
      let (digits, rest) := moreDigits isDigit rest
      some (c :: digits, rest)
    else none
  | [] => none

/-- A decimal integer without sign and without superfluous zeros. -/
def natural? : List Char → Option (List Char × List Char)
  | '0' :: rest => some (['0'], rest)
  | text => digits? Char.isDigit text

def sign (text : List Char) : List Char × List Char :=
  match text with
  | '-' :: rest => (['-'], rest)
  | '+' :: rest => ([], rest)
  | _ => ([], text)

def fraction? : List Char → Option (List Char × List Char)
  | '.' :: rest => (digits? Char.isDigit rest).map fun (digits, rest) => ('.' :: digits, rest)
  | _ => none

def exponent? : List Char → Option (List Char × List Char)
  | mark :: rest =>
    if mark = 'e' ∨ mark = 'E' then
      let (minus, rest) := sign rest
      (digits? Char.isDigit rest).map fun (digits, rest) => ('e' :: minus ++ digits, rest)
    else none
  | [] => none

/-- A number with a fraction or an exponent or both. One beyond all doubles is no number, unless it
is negative. -/
def float? (text : List Char) : Option (Json × List Char) := do
  let (minus, unsigned) := sign text
  match unsigned with
  | 'i' :: 'n' :: 'f' :: rest =>
    some (.float (if minus.isEmpty then Double.infinity else Double.infinity.neg), rest)
  | 'n' :: 'a' :: 'n' :: rest =>
    some (.float (if minus.isEmpty then Double.nan else Double.nan.neg), rest)
  | _ =>
    let (whole, rest) ← natural? unsigned
    let (tail, rest) ← match exponent? rest with
      | some found => some found
      | none => do
        let (fraction, rest) ← fraction? rest
        let (exponent, rest) := (exponent? rest).getD ([], rest)
        some (fraction ++ exponent, rest)
    let x ← Double.read? (minus ++ whole ++ tail)
    if x = Double.infinity then none else some (.float x, rest)

/-- An integer within the bounds of longs. -/
def bounded? (radix : Nat) (numeral : List Char) : Option Json :=
  (Long.ofNumeral? radix numeral).map fun n => .integer n.val

def integer? (text : List Char) : Option (Json × List Char) :=
  match text with
  | '0' :: 'x' :: rest => do
    let (digits, rest) ← digits? (fun c => (Numeral.digitValue? c).any (· < 16)) rest
    some (← bounded? 16 digits, rest)
  | '0' :: 'o' :: rest => do
    let (digits, rest) ← digits? (fun c => '0' ≤ c && c ≤ '7') rest
    some (← bounded? 8 digits, rest)
  | '0' :: 'b' :: rest => do
    let (digits, rest) ← digits? (fun c => c == '0' || c == '1') rest
    some (← bounded? 2 digits, rest)
  | _ => do
    let (minus, rest) := sign text
    let (digits, rest) ← natural? rest
    some (← bounded? 10 (minus ++ digits), rest)

/-- A number of this many digits. -/
def places? (count : Nat) (text : List Char) : Option (Nat × List Char) :=
  let digits := text.take count
  if digits.length = count ∧ digits.all Char.isDigit then
    some (digitsValue digits, text.drop count)
  else none

def afterMark? (mark : Char) : List Char → Option (List Char)
  | c :: rest => if c = mark then some rest else none
  | [] => none

def afterDate? (text : List Char) : Option (List Char) := do
  let (year, rest) ← places? 4 text
  let (month, rest) ← places? 2 (← afterMark? '-' rest)
  let (day, rest) ← places? 2 (← afterMark? '-' rest)
  let _ ← Date.ofYearMonthDay? year month day
  some rest

/-- What follows a two-digit number of at most `most`. -/
def afterPlaces? (most : Nat) (text : List Char) : Option (List Char) := do
  let (n, rest) ← places? 2 text
  if n ≤ most then some rest else none

def afterTime? (text : List Char) : Option (List Char) := do
  let rest ← afterMark? ':' (← afterPlaces? 23 text)
  let rest ← afterMark? ':' (← afterPlaces? 59 rest)
  let rest ← afterPlaces? 60 rest
  match rest with
  | '.' :: fraction =>
    if (fraction.takeWhile Char.isDigit).isEmpty then some rest
    else some (fraction.dropWhile Char.isDigit)
  | _ => some rest

/-- What follows the distance from universal time, if it is there. -/
def afterOffset (text : List Char) : List Char :=
  match text with
  | c :: rest =>
    if c = 'Z' ∨ c = 'z' then rest
    else if c = '+' ∨ c = '-' then
      (do afterPlaces? 59 (← afterMark? ':' (← afterPlaces? 23 rest))).getD text
    else text
  | [] => []

def afterMoment? (text : List Char) : Option (List Char) :=
  match afterDate? text with
  | some (c :: rest) =>
    if c = 'T' ∨ c = 't' ∨ c = ' ' then
      some (((afterTime? rest).map afterOffset).getD (c :: rest))
    else some (c :: rest)
  | some [] => some []
  | none => afterTime? text

/-- A date, a time or both, as a table. -/
def moment? (text : List Char) : Option (Json × List Char) :=
  (afterMoment? text).map fun rest =>
    (.object [("$moment", .string (String.ofList (text.take (text.length - rest.length))))], rest)

end Toml

end Reckoner
