import Reckoner.Calendar.Date

/-! # Times of day

A time of day is an hour, a minute, a second and a fraction in nanoseconds. A leap second is the
last second of a minute with a fraction of one whole second or more.
-/

namespace Reckoner

/-- Hour, minute, second and nanoseconds name a time of day. -/
def IsTime (hour minute second nano : Nat) : Prop :=
  hour < 24 ∧ minute < 60 ∧ second < 60 ∧
    (nano < 1000000000 ∨ (second = 59 ∧ nano < 2000000000))

instance (hour minute second nano : Nat) : Decidable (IsTime hour minute second nano) :=
  inferInstanceAs (Decidable (_ ∧ _))

structure Time where
  hour : Nat
  minute : Nat
  second : Nat
  nano : Nat
  exists_time : IsTime hour minute second nano
deriving DecidableEq

namespace Time

def ofParts? (hour minute second nano : Nat) : Option Time :=
  if valid : IsTime hour minute second nano then some ⟨hour, minute, second, nano, valid⟩ else none

def midnight : Time := ⟨0, 0, 0, 0, by decide⟩

/-- Whole seconds since midnight, a leap second counted as the one before it. -/
def seconds (time : Time) : Nat := time.hour * 3600 + time.minute * 60 + time.second

/-- Times are ordered by seconds since midnight, then by fraction. -/
def order (left right : Time) : Ordering :=
  (compare left.seconds right.seconds).then (compare left.nano right.nano)

/-- The second as it is shown, sixty for a leap second. -/
def shownSecond (time : Time) : Nat := time.second + time.nano / 1000000000

/-- The fraction as it is shown, in nanoseconds. -/
def fraction (time : Time) : Nat := time.nano % 1000000000

def ofSeconds? (seconds : Nat) : Option Time :=
  ofParts? (seconds / 3600) (seconds / 60 % 60) (seconds % 60) 0

def isAfternoon (time : Time) : Bool := 12 ≤ time.hour

/-- The hour on a clock of twelve hours. -/
def hourOnClock (time : Time) : Nat := if time.hour % 12 = 0 then 12 else time.hour % 12

theorem ofParts?_eq_some_iff {hour minute second nano : Nat} {time : Time} :
    ofParts? hour minute second nano = some time ↔
      time.hour = hour ∧ time.minute = minute ∧ time.second = second ∧ time.nano = nano := by
  unfold ofParts?
  split
  · constructor
    · intro same
      cases same
      exact ⟨rfl, rfl, rfl, rfl⟩
    · rintro ⟨rfl, rfl, rfl, rfl⟩
      rfl
  · rename_i invalid
    constructor
    · intro absurdity
      cases absurdity
    · rintro ⟨rfl, rfl, rfl, rfl⟩
      exact absurd time.exists_time invalid

end Time

/-- A day and a time of that day. -/
structure DateTime where
  date : Date
  time : Time
deriving DecidableEq

namespace DateTime

/-- Ordered by date, then by time. -/
def order (left right : DateTime) : Ordering :=
  (left.date.order right.date).then (left.time.order right.time)

/-- Seconds since the beginning of 1970. -/
def timestamp (moment : DateTime) : Int := moment.date.dayNumber * 86400 + moment.time.seconds

/-- The moment so many seconds after the beginning of 1970. -/
def ofTimestamp? (seconds : Int) : Option DateTime := do
  some ⟨← Date.ofDayNumber? (seconds / 86400), ← Time.ofSeconds? (seconds % 86400).toNat⟩

end DateTime

end Reckoner
