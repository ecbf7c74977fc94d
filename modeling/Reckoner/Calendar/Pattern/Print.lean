import Reckoner.Calendar.Pattern
import Reckoner.Calendar.Iso

/-! # Writing by pattern

The text of a date or time under the items of a pattern. An item that asks for a part which is not
there, or for a distance from universal time, makes the whole pattern unusable.
-/

namespace Reckoner

def monthNames : List String :=
  ["January", "February", "March", "April", "May", "June", "July", "August", "September",
    "October", "November", "December"]

def weekdayNames : List String :=
  ["Monday", "Tuesday", "Wednesday", "Thursday", "Friday", "Saturday", "Sunday"]

namespace PatternItem

/-- A number in one or two places. Tens beyond nine continue the run of digit characters. -/
def twoPlaces (padding : Padding) (n : Nat) : List Char :=
  let tens := match n / 10, padding with
    | 0, .bare => []
    | 0, .blanks => [' ']
    | tens, _ => [Char.ofNat (48 + tens)]
  tens ++ [Char.ofNat (48 + n % 10)]

/-- An integer filled up to a width; a sign that is always shown takes one more place. -/
def wide (width : Nat) (padding : Padding) (alwaysSigned : Bool) (n : Int) : List Char :=
  let sign := if n < 0 then ['-'] else if alwaysSigned then ['+'] else []
  let digits := Numeral.ofNat 10 n.natAbs
  let missing := (if alwaysSigned then width + 1 else width) - sign.length - digits.length
  match padding with
  | .bare => sign ++ digits
  | .zeros => sign ++ List.replicate missing '0' ++ digits
  | .blanks => List.replicate missing ' ' ++ sign ++ digits

/-- A year in four places, signed outside of four digits. -/
def yearPlaces (padding : Padding) (year : Int) : List Char :=
  wide 4 padding (year < 0 || 9999 < year) year

/-- A number of a date. A century is shown by its eight low bits. -/
def dateNumber? (padding : Padding) (date : Date) : NumberField → Option (List Char)
  | .year => some (yearPlaces padding date.year)
  | .century => some (twoPlaces padding (date.year / 100 % 256).toNat)
  | .yearOfCentury => some (twoPlaces padding (date.year % 100).toNat)
  | .isoYear => some (yearPlaces padding date.isoYear)
  | .isoYearOfCentury => some (twoPlaces padding (date.isoYear % 100).toNat)
  | .quarter => some (Numeral.ofNat 10 date.quarter)
  | .month => some (twoPlaces padding date.month)
  | .day => some (twoPlaces padding date.day)
  | .sundayWeek => some (twoPlaces padding (date.weekFrom 6))
  | .mondayWeek => some (twoPlaces padding (date.weekFrom 0))
  | .isoWeek => some (twoPlaces padding date.isoWeek)
  | .daysSinceSunday => some (Numeral.ofNat 10 ((date.weekday + 1) % 7))
  | .weekdayNumber => some (Numeral.ofNat 10 (date.weekday + 1))
  | .ordinal => some (wide 3 padding false date.ordinal)
  | _ => none

def timeNumber? (padding : Padding) (time : Time) : NumberField → Option (List Char)
  | .hour => some (twoPlaces padding time.hour)
  | .clockHour => some (twoPlaces padding time.hourOnClock)
  | .minute => some (twoPlaces padding time.minute)
  | .second => some (twoPlaces padding time.shownSecond)
  | .nanosecond => some (wide 9 padding false time.fraction)
  | _ => none

/-- A number of whatever is there. -/
def number? (padding : Padding) (date? : Option Date) (time? : Option Time)
    (field : NumberField) : Option (List Char) :=
  match field, date?, time? with
  | .timestamp, some date, some time =>
    some (wide 9 padding false (DateTime.timestamp ⟨date, time⟩))
  | field, date?, time? =>
    (date?.bind fun date => dateNumber? padding date field).or
      (time?.bind fun time => timeNumber? padding time field)

/-- A word or mark for a part of whatever is there. -/
def name? (date? : Option Date) (time? : Option Time) : NameField → Option (List Char)
  | .shortMonth => do (monthNames[(← date?).month - 1]?).map fun name => name.toList.take 3
  | .longMonth => do (monthNames[(← date?).month - 1]?).map String.toList
  | .shortWeekday => do (weekdayNames[(← date?).weekday]?).map fun name => name.toList.take 3
  | .longWeekday => do (weekdayNames[(← date?).weekday]?).map String.toList
  | .lowerHalf => do some (if (← time?).isAfternoon then ['p', 'm'] else ['a', 'm'])
  | .upperHalf => do some (if (← time?).isAfternoon then ['P', 'M'] else ['A', 'M'])

/-- The first digits of the fraction of a second. -/
def fractionStart (digits : Nat) (time : Time) : List Char :=
  zeroPadded digits (time.fraction / Nat.pow 10 (9 - digits))

def print? (date? : Option Date) (time? : Option Time) : PatternItem → Option (List Char)
  | .literal c => some [c]
  | .blank c => some [c]
  | .number field padding => number? padding date? time? field
  | .name field => name? date? time? field
  | .fraction => time?.map fun time => fractionText time.fraction
  | .pointFraction digits => time?.map fun time => '.' :: fractionStart digits time
  | .bareFraction digits => time?.map fun time => fractionStart digits time
  | .zoneName | .zoneOffset _ | .instant => none

def printAll? (items : List PatternItem) (date? : Option Date) (time? : Option Time) :
    Option (List Char) :=
  (items.mapM (print? date? time?)).map List.flatten

end PatternItem

end Reckoner
