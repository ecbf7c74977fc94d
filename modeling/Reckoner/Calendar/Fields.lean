import Reckoner.Calendar.Time

/-! # Fields of a date or time

What a text may state about a moment, piece by piece: a year or two digits of it, an ordinal or a
month and a day, half of the day and hour on the clock. Fields are set one at a time and never
contradict themselves. Together they determine a date, a time or both when they are sufficient and
no field disagrees with the outcome.
-/

namespace Reckoner

/-- The numbers that can be stated of a moment. -/
inductive NumberField where
  | year
  | century
  | yearOfCentury
  | isoYear
  | isoYearOfCentury
  | quarter
  | month
  | day
  | sundayWeek
  | mondayWeek
  | isoWeek
  | daysSinceSunday
  | weekdayNumber
  | ordinal
  | hour
  | clockHour
  | minute
  | second
  | nanosecond
  | timestamp
deriving DecidableEq

/-- What is known of a moment. Weekdays are days since Monday, halves of the day zero and one, and
the hour of a half counts from zero. -/
structure Fields where
  year : Option Int
  century : Option Int
  yearOfCentury : Option Int
  isoYear : Option Int
  isoYearOfCentury : Option Int
  quarter : Option Nat
  month : Option Nat
  day : Option Nat
  sundayWeek : Option Nat
  mondayWeek : Option Nat
  isoWeek : Option Nat
  weekday : Option Nat
  ordinal : Option Nat
  half : Option Nat
  hourOfHalf : Option Nat
  minute : Option Nat
  second : Option Nat
  nanosecond : Option Nat
  timestamp : Option Int
  offset : Option Int

/-- Why fields determine nothing. -/
inductive Unresolved where
  | insufficient
  | contradictory
deriving DecidableEq

namespace Fields

def unknown : Fields :=
  ⟨none, none, none, none, none, none, none, none, none, none, none, none, none, none, none, none,
    none, none, none, none⟩

/-- A piece of knowledge after a statement, which must not contradict it. -/
def agree? {α : Type} [DecidableEq α] (known : Option α) (stated : α) : Option (Option α) :=
  match known with
  | some value => if value = stated then some known else none
  | none => some (some stated)

/-- A number of a closed range. -/
def within? (low high : Nat) (value : Int) : Option Nat :=
  if (low : Int) ≤ value ∧ value ≤ high then some value.toNat else none

/-- A year that fits 32 bits. -/
def year32? (value : Int) : Option Int :=
  if -2147483648 ≤ value ∧ value ≤ 2147483647 then some value else none

/-- States the weekday, in days since Monday. -/
def setWeekday? (fields : Fields) (weekday : Nat) : Option Fields := do
  some { fields with weekday := ← agree? fields.weekday weekday }

def setHalf? (fields : Fields) (half : Nat) : Option Fields := do
  some { fields with half := ← agree? fields.half half }

def setMonth? (fields : Fields) (month : Nat) : Option Fields := do
  some { fields with month := ← agree? fields.month month }

/-- States the distance from universal time, in seconds. -/
def setOffset? (fields : Fields) (seconds : Int) : Option Fields := do
  some { fields with offset := ← agree? fields.offset seconds }

def setNanosecond? (fields : Fields) (nano : Nat) : Option Fields := do
  some { fields with nanosecond := ← agree? fields.nanosecond nano }

/-- States a number. It must lie in the range of its field. -/
def set? (fields : Fields) (field : NumberField) (value : Int) : Option Fields := do
  match field with
  | .year => some { fields with year := ← agree? fields.year (← year32? value) }
  | .century =>
    some { fields with century := ← agree? fields.century (← within? 0 2147483647 value : Nat) }
  | .yearOfCentury =>
    some { fields with yearOfCentury := ← agree? fields.yearOfCentury (← within? 0 99 value : Nat) }
  | .isoYear => some { fields with isoYear := ← agree? fields.isoYear (← year32? value) }
  | .isoYearOfCentury =>
    some { fields with
      isoYearOfCentury := ← agree? fields.isoYearOfCentury (← within? 0 99 value : Nat) }
  | .quarter => some { fields with quarter := ← agree? fields.quarter (← within? 1 4 value) }
  | .month => fields.setMonth? (← within? 1 12 value)
  | .day => some { fields with day := ← agree? fields.day (← within? 1 31 value) }
  | .sundayWeek =>
    some { fields with sundayWeek := ← agree? fields.sundayWeek (← within? 0 53 value) }
  | .mondayWeek =>
    some { fields with mondayWeek := ← agree? fields.mondayWeek (← within? 0 53 value) }
  | .isoWeek => some { fields with isoWeek := ← agree? fields.isoWeek (← within? 1 53 value) }
  | .daysSinceSunday => fields.setWeekday? (((← within? 0 6 value) + 6) % 7)
  | .weekdayNumber => fields.setWeekday? ((← within? 1 7 value) - 1)
  | .ordinal => some { fields with ordinal := ← agree? fields.ordinal (← within? 1 366 value) }
  | .hour =>
    let hour ← within? 0 23 value
    let fields ← fields.setHalf? (hour / 12)
    some { fields with hourOfHalf := ← agree? fields.hourOfHalf (hour % 12) }
  | .clockHour =>
    let hour ← within? 1 12 value
    some { fields with hourOfHalf := ← agree? fields.hourOfHalf (hour % 12) }
  | .minute => some { fields with minute := ← agree? fields.minute (← within? 0 59 value) }
  | .second => some { fields with second := ← agree? fields.second (← within? 0 60 value) }
  | .nanosecond => fields.setNanosecond? (← within? 0 999999999 value)
  | .timestamp => some { fields with timestamp := ← agree? fields.timestamp value }

/-- A year from the year, its century and its last two digits, as far as they are stated. Two digits
alone mean the years from 1970 to 2069; a year stated by parts is not negative. -/
def fullYear (year century rest : Option Int) : Except Unresolved (Option Int) :=
  match year, century, rest with
  | year, none, none => .ok year
  | some year, century, rest =>
    if year < 0 then .error .contradictory
    else if century.getD (year / 100) = year / 100 ∧ rest.getD (year % 100) = year % 100 then
      .ok (some year)
    else .error .contradictory
  | none, some century, some rest =>
    if century * 100 + rest ≤ 2147483647 then .ok (some (century * 100 + rest))
    else .error .contradictory
  | none, none, some rest => .ok (some (if rest < 70 then 2000 + rest else 1900 + rest))
  | none, some _, none => .error .insufficient

/-- No statement, or a true one. -/
def holds {α : Type} [DecidableEq α] (stated : Option α) (actual : α) : Bool :=
  stated.getD actual == actual

/-- No statement, or a true one about the year `year` in parts, which a negative year lacks. -/
def holdsOfYear (stated : Option Int) (year part : Int) : Bool :=
  match stated with
  | none => true
  | some value => 0 ≤ year && value == part

/-- The date agrees with what is stated of year, month and day. -/
def agreesWithDay (fields : Fields) (date : Date) : Bool :=
  holds fields.year date.year && holdsOfYear fields.century date.year (date.year / 100) &&
    holdsOfYear fields.yearOfCentury date.year (date.year % 100) &&
    holds fields.month date.month && holds fields.day date.day

/-- The date agrees with what is stated of ISO weeks and the weekday. -/
def agreesWithIsoWeek (fields : Fields) (date : Date) : Bool :=
  holds fields.isoYear date.isoYear &&
    holdsOfYear fields.isoYearOfCentury date.isoYear (date.isoYear % 100) &&
    holds fields.isoWeek date.isoWeek && holds fields.weekday date.weekday

/-- The date agrees with what is stated of its position in the year. -/
def agreesWithOrdinal (fields : Fields) (date : Date) : Bool :=
  holds fields.ordinal date.ordinal && holds fields.sundayWeek (date.weekFrom 6) &&
    holds fields.mondayWeek (date.weekFrom 0)

/-- The date of a weekday in a week that is counted from the first weekday `first` of the year. -/
def dateOfWeek (year : Int) (week weekday first : Nat) : Except Unresolved Date :=
  match Date.ofOrdinal? year 1 with
  | none => .error .contradictory
  | some newYear =>
    let ordinal : Int := 1 + (first + 7 - newYear.weekday) % 7 + ((week : Int) - 1) * 7 +
      (weekday + 7 - first) % 7
    match if ordinal ≤ 0 then none else Date.ofOrdinal? year ordinal.toNat with
    | none => .error .contradictory
    | some date => .ok date

/-- A date that must exist. -/
def existing (date? : Option Date) : Except Unresolved Date :=
  match date? with
  | some date => .ok date
  | none => .error .contradictory

/-- The first sufficient group of fields determines a date: month and day, the ordinal, a week from
Sunday or Monday, or an ISO week. Every other field must agree with it. -/
def date (fields : Fields) : Except Unresolved Date := do
  let year ← fullYear fields.year fields.century fields.yearOfCentury
  let isoYear ← fullYear fields.isoYear none fields.isoYearOfCentury
  let (verified, date) ← match year, fields.month, fields.day, fields.ordinal with
    | some year, some month, some day, _ => do
      let date ← existing (Date.ofYearMonthDay? year month day)
      .ok (fields.agreesWithIsoWeek date && fields.agreesWithOrdinal date, date)
    | some year, _, _, some ordinal => do
      let date ← existing (Date.ofOrdinal? year ordinal)
      .ok (fields.agreesWithDay date && fields.agreesWithIsoWeek date &&
        fields.agreesWithOrdinal date, date)
    | _, _, _, _ =>
      match year, fields.sundayWeek, fields.mondayWeek, fields.weekday with
      | some year, some week, _, some weekday => do
        let date ← dateOfWeek year week weekday 6
        .ok (fields.agreesWithDay date && fields.agreesWithIsoWeek date &&
          fields.agreesWithOrdinal date, date)
      | some year, none, some week, some weekday => do
        let date ← dateOfWeek year week weekday 0
        .ok (fields.agreesWithDay date && fields.agreesWithIsoWeek date &&
          fields.agreesWithOrdinal date, date)
      | _, _, _, _ =>
        match isoYear, fields.isoWeek, fields.weekday with
        | some isoYear, some week, some weekday => do
          let date ← existing (Date.ofIsoWeek? isoYear week weekday)
          .ok (fields.agreesWithDay date && fields.agreesWithOrdinal date, date)
        | _, _, _ => .error .insufficient
  if verified && holds fields.quarter date.quarter then .ok date else .error .contradictory

/-- Hour and minute must be stated; the fraction only together with the second. -/
def time (fields : Fields) : Except Unresolved Time :=
  match fields.half, fields.hourOfHalf, fields.minute with
  | some half, some hourOfHalf, some minute =>
    let leap := fields.second == some 60
    let second := if leap then 59 else fields.second.getD 0
    match fields.nanosecond, fields.second with
    | some _, none => .error .insufficient
    | nano, _ =>
      match Time.ofParts? (half * 12 + hourOfHalf) minute second
          ((if leap then 1000000000 else 0) + nano.getD 0) with
      | some time => .ok time
      | none => .error .contradictory
  | _, _, _ => .error .insufficient

/-- The timestamp agrees with the moment; a leap second may count as the second after it. -/
def agreesWithTimestamp (fields : Fields) (moment : DateTime) : Bool :=
  match fields.timestamp with
  | none => true
  | some stated =>
    stated == moment.timestamp ||
      (1000000000 ≤ moment.time.nano && stated == moment.timestamp + 1)

/-- The moment of a timestamp, with which all other fields must agree. A stated leap second is the
second before the full minute. -/
def momentOfTimestamp? (fields : Fields) (timestamp : Int) : Option DateTime := do
  let stated ← DateTime.ofTimestamp? timestamp
  let (moment, fields) ←
    if fields.second == some 60 then
      if stated.time.second = 59 then some (stated, fields)
      else if stated.time.second = 0 then some (← DateTime.ofTimestamp? (timestamp - 1), fields)
      else none
    else some (stated, ← fields.set? .second stated.time.second)
  let fields ← fields.set? .year moment.date.year
  let fields ← fields.set? .ordinal moment.date.ordinal
  let fields ← fields.set? .hour moment.time.hour
  let fields ← fields.set? .minute moment.time.minute
  match fields.date, fields.time with
  | .ok date, .ok time => some ⟨date, time⟩
  | _, _ => none

/-- Date and time together, or both from a timestamp where one of them is insufficiently stated. -/
def moment? (fields : Fields) : Option DateTime :=
  match fields.date, fields.time, fields.timestamp with
  | .ok date, .ok time, _ =>
    if fields.agreesWithTimestamp ⟨date, time⟩ then some ⟨date, time⟩ else none
  | .error .contradictory, _, _ => none
  | _, .error .contradictory, _ => none
  | _, _, some timestamp => fields.momentOfTimestamp? timestamp
  | _, _, none => none

end Fields

end Reckoner
