import Reckoner.Calendar.Fields
import Reckoner.Text.Blank

/-! # Date patterns

A pattern is a text in which a percent sign introduces a directive and every other character stands
for itself. Reading a pattern yields its items; a pattern with an unknown directive has none.
-/

namespace Reckoner

/-- How a number is filled up to its width. -/
inductive Padding where
  | bare
  | zeros
  | blanks
deriving DecidableEq

/-- The words and marks that can stand for a part of a moment. -/
inductive NameField where
  | shortMonth
  | longMonth
  | shortWeekday
  | longWeekday
  | lowerHalf
  | upperHalf
deriving DecidableEq

inductive PatternItem where
  /-- A character that stands for itself. -/
  | literal (c : Char)
  /-- A blank, which reads any run of blanks. -/
  | blank (c : Char)
  | number (field : NumberField) (padding : Padding)
  | name (field : NameField)
  /-- The fraction of the second behind a point, absent when it is zero. -/
  | fraction
  /-- The fraction in a fixed number of digits behind a point. -/
  | pointFraction (digits : Nat)
  /-- The fraction in a fixed number of digits. -/
  | bareFraction (digits : Nat)
  | zoneName
  /-- The distance from universal time; a lenient one may be a letter Z or lack minutes. -/
  | zoneOffset (lenient : Bool)
  /-- Date, time and distance from universal time together. -/
  | instant
deriving DecidableEq

namespace PatternItem

def zeros (field : NumberField) : PatternItem := .number field .zeros

/-- Hour, minute and second between colons. -/
def clock : List PatternItem :=
  [zeros .hour, .literal ':', zeros .minute, .literal ':', zeros .second]

/-- Month, day and two digits of the year between slashes. -/
def slashed : List PatternItem :=
  [zeros .month, .literal '/', zeros .day, .literal '/', zeros .yearOfCentury]

/-- Year, month and day between hyphens. -/
def hyphenated : List PatternItem :=
  [zeros .year, .literal '-', zeros .month, .literal '-', zeros .day]

/-- The items of a directive of one letter. -/
def ofLetter? : Char → Option (List PatternItem)
  | 'A' => some [.name .longWeekday]
  | 'B' => some [.name .longMonth]
  | 'C' => some [zeros .century]
  | 'D' => some slashed
  | 'F' => some hyphenated
  | 'G' => some [zeros .isoYear]
  | 'H' => some [zeros .hour]
  | 'I' => some [zeros .clockHour]
  | 'M' => some [zeros .minute]
  | 'P' => some [.name .lowerHalf]
  | 'R' => some [zeros .hour, .literal ':', zeros .minute]
  | 'S' => some [zeros .second]
  | 'T' => some clock
  | 'U' => some [zeros .sundayWeek]
  | 'V' => some [zeros .isoWeek]
  | 'W' => some [zeros .mondayWeek]
  | 'X' => some clock
  | 'Y' => some [zeros .year]
  | 'Z' => some [.zoneName]
  | 'a' => some [.name .shortWeekday]
  | 'b' => some [.name .shortMonth]
  | 'c' => some ([.name .shortWeekday, .blank ' ', .name .shortMonth, .blank ' ',
      .number .day .blanks, .blank ' '] ++ clock ++ [.blank ' ', zeros .year])
  | 'd' => some [zeros .day]
  | 'e' => some [.number .day .blanks]
  | 'f' => some [zeros .nanosecond]
  | 'g' => some [zeros .isoYearOfCentury]
  | 'h' => some [.name .shortMonth]
  | 'j' => some [zeros .ordinal]
  | 'k' => some [.number .hour .blanks]
  | 'l' => some [.number .clockHour .blanks]
  | 'm' => some [zeros .month]
  | 'n' => some [.blank '\n']
  | 'p' => some [.name .upperHalf]
  | 'q' => some [.number .quarter .bare]
  | 'r' => some [zeros .clockHour, .literal ':', zeros .minute, .literal ':', zeros .second,
      .blank ' ', .name .upperHalf]
  | 's' => some [.number .timestamp .bare]
  | 't' => some [.blank '\t']
  | 'u' => some [.number .weekdayNumber .bare]
  | 'v' => some [.number .day .blanks, .literal '-', .name .shortMonth, .literal '-', zeros .year]
  | 'w' => some [.number .daysSinceSunday .bare]
  | 'x' => some slashed
  | 'y' => some [zeros .yearOfCentury]
  | 'z' => some [.zoneOffset false]
  | '+' => some [.instant]
  | '%' => some [.literal '%']
  | _ => none

def paddingOf? : Char → Option Padding
  | '-' => some .bare
  | '0' => some .zeros
  | '_' => some .blanks
  | _ => none

/-- A directive of one letter under a modifier, which only a single number admits. -/
def repadded? (padding : Padding) (letter : Char) : Option (List PatternItem) :=
  match ofLetter? letter with
  | some [.number field _] => some [.number field padding]
  | _ => none

/-- The number of digits that a directive for fractions may ask for. -/
def fractionDigits? : Char → Option Nat
  | '3' => some 3
  | '6' => some 6
  | '9' => some 9
  | _ => none

/-- The items of the directive that follows a percent sign, and the number of its characters. -/
def directive? : List Char → Option (List PatternItem × Nat)
  | '.' :: 'f' :: _ => some ([.fraction], 2)
  | '.' :: digits :: 'f' :: _ => (fractionDigits? digits).map fun n => ([.pointFraction n], 3)
  | '#' :: 'z' :: _ => some ([.zoneOffset true], 2)
  | ':' :: ':' :: ':' :: 'z' :: _ => some ([.zoneOffset false], 4)
  | ':' :: ':' :: 'z' :: _ => some ([.zoneOffset false], 3)
  | ':' :: 'z' :: _ => some ([.zoneOffset false], 2)
  | letter :: next :: _ =>
    match paddingOf? letter, fractionDigits? letter, next with
    | some padding, _, _ => (repadded? padding next).map fun items => (items, 2)
    | none, some n, 'f' => some ([.bareFraction n], 2)
    | none, _, _ => (ofLetter? letter).map fun items => (items, 1)
  | [letter] => (ofLetter? letter).map fun items => (items, 1)
  | [] => none

def ofPattern? (text : List Char) : Option (List PatternItem) :=
  match text with
  | [] => some []
  | '%' :: rest => do
    let (items, used) ← directive? rest
    some (items ++ (← ofPattern? (rest.drop used)))
  | c :: rest => do
    some ((if Text.isBlank c then .blank c else .literal c) :: (← ofPattern? rest))
termination_by text.length
decreasing_by all_goals simp only [List.length_cons, List.length_drop]; omega

end PatternItem

end Reckoner
