import Reckoner.Calendar.Pattern.Print
import Reckoner.Number.Reader

/-! # Reading by pattern

A text is read item by item from the left, each item stating fields. Numbers skip blanks in front of
them and take a bounded run of digits. The text must be used up when the items are.
-/

namespace Reckoner

namespace PatternItem

/-- A reader takes what it can from the front of a text and yields what follows. -/
abbrev Step := Fields → List Char → Option (Fields × List Char)

/-- At least `least` and at most `most` digits, as a number of 64 bits with sign. -/
def digits? (least most : Nat) (text : List Char) : Option (Nat × List Char) :=
  let digits := (text.take most).takeWhile Char.isDigit
  let value := digitsValue digits
  if digits.length < least ∨ 9223372036854775807 < value then none
  else some (value, text.drop digits.length)

/-- The greatest number of digits of a field without sign; a timestamp has no such bound. -/
def places (text : List Char) : NumberField → Nat
  | .year | .isoYear => 4
  | .century | .yearOfCentury | .isoYearOfCentury | .month | .day | .sundayWeek | .mondayWeek
  | .isoWeek | .hour | .clockHour | .minute | .second => 2
  | .quarter | .daysSinceSunday | .weekdayNumber => 1
  | .ordinal => 3
  | .nanosecond => 9
  | .timestamp => text.length

/-- The integer of a field. Only years take a sign, and a signed year may have any length. -/
def integer? (field : NumberField) (text : List Char) : Option (Int × List Char) :=
  match field, text with
  | .year, '-' :: rest | .isoYear, '-' :: rest =>
    (digits? 1 rest.length rest).map fun (n, rest) => (-(n : Int), rest)
  | .year, '+' :: rest | .isoYear, '+' :: rest =>
    (digits? 1 rest.length rest).map fun (n, rest) => ((n : Int), rest)
  | field, text => (digits? 1 (places text field) text).map fun (n, rest) => ((n : Int), rest)

/-- States the number in front of the text, after blanks. -/
def readNumber (field : NumberField) : Step := fun fields text => do
  let (value, rest) ← integer? field (Text.trimStart text)
  some (← fields.set? field value, rest)

/-- What follows `word` in the text, where letters match regardless of ASCII case. -/
def afterWord? : (word text : List Char) → Option (List Char)
  | [], text => some text
  | _, [] => none
  | c :: word, d :: text => if c.toLower = d.toLower then afterWord? word text else none

/-- The position of the name whose first three letters start the text, and what follows them. -/
def shortName? (names : List String) (text : List Char) : Option (Nat × List Char) :=
  names.zipIdx.findSome? fun entry =>
    (afterWord? (entry.1.toList.take 3) text).map fun rest => (entry.2, rest)

/-- Like `shortName?`, with the rest of the name taken too if it is there. -/
def longName? (names : List String) (text : List Char) : Option (Nat × List Char) := do
  let (index, rest) ← shortName? names text
  let ending := ((names[index]?).map fun name => name.toList.drop 3).getD []
  some (index, (afterWord? ending rest).getD rest)

def readHalf : Step := fun fields text =>
  match afterWord? ['a', 'm'] text, afterWord? ['p', 'm'] text with
  | some rest, _ => (fields.setHalf? 0).map (·, rest)
  | _, some rest => (fields.setHalf? 1).map (·, rest)
  | _, _ => none

/-- States what a word or mark stands for. -/
def readName : NameField → Step
  | .shortMonth => fun fields text => do
    let (index, rest) ← shortName? monthNames text
    some (← fields.setMonth? (index + 1), rest)
  | .longMonth => fun fields text => do
    let (index, rest) ← longName? monthNames text
    some (← fields.setMonth? (index + 1), rest)
  | .shortWeekday => fun fields text => do
    let (index, rest) ← shortName? weekdayNames text
    some (← fields.setWeekday? index, rest)
  | .longWeekday => fun fields text => do
    let (index, rest) ← longName? weekdayNames text
    some (← fields.setWeekday? index, rest)
  | .lowerHalf | .upperHalf => readHalf

/-- States a fraction of exactly so many digits. -/
def readFraction (count : Nat) : Step := fun fields text => do
  let (value, rest) ← digits? count count text
  some (← fields.setNanosecond? (value * Nat.pow 10 (9 - count)), rest)

/-- States a fraction of any number of digits, of which nine count. -/
def readLongFraction : Step := fun fields text => do
  let (value, rest) ← digits? 1 9 text
  let nano := value * Nat.pow 10 (9 - (text.length - rest.length))
  some (← fields.setNanosecond? nano, rest.dropWhile Char.isDigit)

/-- A part that is there only behind a point. -/
def afterPoint (step : Step) : Step := fun fields text =>
  match text with
  | '.' :: rest => step fields rest
  | _ => some (fields, text)

/-- Two digits, the first of which is at most `greatest`. -/
def twoDigits? (greatest : Char) : List Char → Option (Nat × List Char)
  | c :: d :: rest =>
    if c.isDigit ∧ d.isDigit ∧ c ≤ greatest then some (digitsValue [c, d], rest) else none
  | _ => none

/-- Hours and minutes behind a sign, colons and blanks between them being optional. Where minutes
may be missing, nothing may follow the hours. -/
def signedOffset? (optionalMinutes : Bool) (text : List Char) : Option (Int × List Char) := do
  let (sign, unsigned) ← match text with
    | '+' :: rest => some ((1 : Int), rest)
    | '-' :: rest | '−' :: rest => some (-1, rest)
    | _ => none
  let (hours, rest) ← twoDigits? '9' unsigned
  let rest := rest.dropWhile fun c => c == ':' || Text.isBlank c
  if rest.isEmpty && optionalMinutes then some (sign * (hours * 3600), rest)
  else
    let (minutes, rest) ← twoDigits? '5' rest
    some (sign * (hours * 3600 + minutes * 60), rest)

/-- States a distance from universal time; a letter Z stands for none at all where it is allowed. -/
def readOffset (zulu optionalMinutes : Bool) : Step := fun fields text =>
  match zulu, text with
  | true, 'Z' :: rest | true, 'z' :: rest => (fields.setOffset? 0).map (·, rest)
  | _, text => do
    let (seconds, rest) ← signedOffset? optionalMinutes text
    some (← fields.setOffset? seconds, rest)

/-- One step after another. -/
def inOrder (steps : List Step) : Step := fun fields text =>
  steps.foldlM (fun (fields, text) step => step fields text) (fields, text)

/-- A character that must be there. -/
def readLiteral (c : Char) : Step := fun fields text =>
  match text with
  | d :: rest => if c = d then some (fields, rest) else none
  | [] => none

/-- Any run of blanks. -/
def readBlank : Step := fun fields text => some (fields, Text.trimStart text)

/-- A letter T of either case or a blank, between a date and a time. -/
def readSeparator : Step := fun fields text =>
  match text with
  | 't' :: rest | 'T' :: rest | ' ' :: rest => some (fields, rest)
  | _ => none

/-- States universal time by the letters UTC, or a distance from it. -/
def readZone : Step := fun fields text =>
  match afterWord? ['u', 't', 'c'] text with
  | some rest => (fields.setOffset? 0).map (·, rest)
  | none => readOffset true false fields text

/-- A character that must be there, after blanks. -/
def readMark (c : Char) : Step := inOrder [readBlank, readLiteral c]

/-- Hour, minute and second between colons, and perhaps a fraction. -/
def readClock : Step :=
  inOrder [readNumber .hour, readMark ':', readNumber .minute, readMark ':', readNumber .second,
    afterPoint readLongFraction]

/-- Year, month and day between hyphens. -/
def readHyphenated : Step :=
  inOrder [readNumber .year, readMark '-', readNumber .month, readMark '-', readNumber .day]

def read : PatternItem → Step
  | .literal c => readLiteral c
  | .blank _ => readBlank
  | .number field _ => readNumber field
  | .name field => readName field
  | .fraction => afterPoint readLongFraction
  | .pointFraction count => afterPoint (readFraction count)
  | .bareFraction count => readFraction count
  | .zoneName => fun fields text => some (fields, text.dropWhile fun c => !Text.isBlank c)
  | .zoneOffset lenient => fun fields text =>
    readOffset lenient lenient fields (Text.trimStart text)
  | .instant => inOrder [readHyphenated, readSeparator, readClock, readBlank, readZone]

/-- What a whole text states under the given steps. -/
def fieldsOf? (steps : List Step) (text : List Char) : Option Fields :=
  match inOrder steps Fields.unknown text with
  | some (fields, []) => some fields
  | _ => none

/-- What a whole text states under the items of a pattern. -/
def readAll? (items : List PatternItem) (text : List Char) : Option Fields :=
  fieldsOf? (items.map read) text

end PatternItem

end Reckoner
