/-! # Dates

Dates of the proleptic Gregorian calendar, with a year zero and negative years. A date carries the
proof that its month and day exist, and every way of building one either checks this or fails.
Day numbers count from 1 January 1970.
-/

namespace Reckoner

/-- A year with a twenty-ninth of February. -/
def isLeap (year : Int) : Bool := year % 4 == 0 && (year % 100 != 0 || year % 400 == 0)

/-- The length of a month; no month outside one to twelve has days. -/
def daysInMonth (year : Int) (month : Nat) : Nat :=
  match month with
  | 1 | 3 | 5 | 7 | 8 | 10 | 12 => 31
  | 4 | 6 | 9 | 11 => 30
  | 2 => if isLeap year then 29 else 28
  | _ => 0

def months : List Nat := [1, 2, 3, 4, 5, 6, 7, 8, 9, 10, 11, 12]

/-- Year, month and day name a day of the supported range of years. -/
def IsDate (year : Int) (month day : Nat) : Prop :=
  -262143 ≤ year ∧ year ≤ 262142 ∧ 1 ≤ day ∧ day ≤ daysInMonth year month

instance (year : Int) (month day : Nat) : Decidable (IsDate year month day) :=
  inferInstanceAs (Decidable (_ ∧ _))

structure Date where
  year : Int
  month : Nat
  day : Nat
  exists_day : IsDate year month day
deriving DecidableEq

namespace Date

def ofYearMonthDay? (year : Int) (month day : Nat) : Option Date :=
  if valid : IsDate year month day then some ⟨year, month, day, valid⟩ else none

/-- The first of January 1970. -/
def epoch : Date := ⟨1970, 1, 1, by decide⟩

/-- Dates are ordered by year, then month, then day. -/
def order (left right : Date) : Ordering :=
  (compare left.year right.year).then
    ((compare left.month right.month).then (compare left.day right.day))

/-- The position of the day in its year, from one. -/
def ordinal (date : Date) : Nat :=
  (months.takeWhile (· < date.month)).foldr (fun month days => daysInMonth date.year month + days)
    date.day

/-- The number of the day that is `ordinal` days into a year. -/
def dayNumberOf (year : Int) (ordinal : Int) : Int :=
  365 * (year - 1) + (year - 1) / 4 - (year - 1) / 100 + (year - 1) / 400 + ordinal - 719163

/-- The number of the day, counted from the first of January 1970. -/
def dayNumber (date : Date) : Int := dayNumberOf date.year date.ordinal

/-- The month, out of those given, and the day of the month that lie `ordinal` days in. -/
def monthAndDay (year : Int) : List Nat → Nat → Nat × Nat
  | [], ordinal => (0, ordinal)
  | month :: rest, ordinal =>
    if ordinal ≤ daysInMonth year month then (month, ordinal)
    else monthAndDay year rest (ordinal - daysInMonth year month)

def ofOrdinal? (year : Int) (ordinal : Nat) : Option Date :=
  let (month, day) := monthAndDay year months ordinal
  ofYearMonthDay? year month day

def ofDayNumber? (number : Int) : Option Date := do
  let estimate := (number + 719163) * 400 / 146097 + 1
  let year ← [estimate + 1, estimate, estimate - 1].find? fun year => dayNumberOf year 1 ≤ number
  ofOrdinal? year (number - dayNumberOf year 0).toNat

/-- Days since Monday of the weekday on which a day number falls. -/
def weekdayOf (number : Int) : Nat := ((number + 3) % 7).toNat

/-- Days since Monday of the date's weekday. -/
def weekday (date : Date) : Nat := weekdayOf date.dayNumber

/-- The quarter of the year, from one. -/
def quarter (date : Date) : Nat := (date.month - 1) / 3 + 1

/-- The number of weeks that have begun in the date's year, where weeks begin on the weekday
`first`; the days before the first such weekday make week zero. -/
def weekFrom (first : Nat) (date : Date) : Nat :=
  (date.ordinal + 6 - (date.weekday + 7 - first) % 7) / 7

/-- The Monday that begins the first ISO week of a year: the week of the fourth of January. -/
def isoYearStart (year : Int) : Int :=
  dayNumberOf year 4 - weekdayOf (dayNumberOf year 4)

/-- The year to which the date's ISO week belongs. -/
def isoYear (date : Date) : Int :=
  if date.dayNumber < isoYearStart date.year then date.year - 1
  else if isoYearStart (date.year + 1) ≤ date.dayNumber then date.year + 1
  else date.year

/-- The number of the date's ISO week in its ISO year. -/
def isoWeek (date : Date) : Nat :=
  ((date.dayNumber - isoYearStart date.isoYear) / 7).toNat + 1

/-- The day of an ISO year, week and weekday, the latter in days since Monday. -/
def ofIsoWeek? (year : Int) (week weekday : Nat) : Option Date :=
  let number := isoYearStart year + 7 * ((week : Int) - 1) + weekday
  if week = 0 ∨ isoYearStart (year + 1) ≤ number then none else ofDayNumber? number

/-- The date that is found has the year, the month and the day that were asked for. -/
theorem ofYearMonthDay?_eq_some_iff {year : Int} {month day : Nat} {date : Date} :
    ofYearMonthDay? year month day = some date ↔
      date.year = year ∧ date.month = month ∧ date.day = day := by
  unfold ofYearMonthDay?
  split
  · constructor
    · intro same
      cases same
      exact ⟨rfl, rfl, rfl⟩
    · rintro ⟨rfl, rfl, rfl⟩
      rfl
  · rename_i invalid
    constructor
    · intro absurdity
      cases absurdity
    · rintro ⟨rfl, rfl, rfl⟩
      exact absurd date.exists_day invalid

end Date

end Reckoner
