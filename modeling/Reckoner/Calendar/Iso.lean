import Reckoner.Calendar.Time
import Reckoner.Number.Numeral

/-! # ISO texts

Dates and times in the forms `2020-01-02`, `10:30:00` and `2020-01-02T10:30:00`. A fraction of a
second is shown in groups of three digits when it is not zero, and a year outside of four digits
with its sign.
-/

namespace Reckoner

/-- A number filled up with `filler` on the left. -/
def padded (filler : Char) (width n : Nat) : List Char :=
  let digits := Numeral.ofNat 10 n
  List.replicate (width - digits.length) filler ++ digits

/-- A number in at least `width` digits. -/
def zeroPadded (width n : Nat) : List Char := padded '0' width n

/-- The fraction of a second behind a point, in three, six or nine digits, or nothing if zero. -/
def fractionText (nano : Nat) : List Char :=
  if nano = 0 then []
  else if nano % 1000000 = 0 then '.' :: zeroPadded 3 (nano / 1000000)
  else if nano % 1000 = 0 then '.' :: zeroPadded 6 (nano / 1000)
  else '.' :: zeroPadded 9 nano

/-- A year in four digits, with a sign when it is negative or needs more. -/
def yearText (year : Int) : List Char :=
  if year < 0 then '-' :: zeroPadded 4 year.natAbs
  else if 9999 < year then '+' :: zeroPadded 4 year.natAbs
  else zeroPadded 4 year.natAbs

/-- Year, month and day between hyphens. -/
def Date.iso (date : Date) : List Char :=
  yearText date.year ++ '-' :: zeroPadded 2 date.month ++ '-' :: zeroPadded 2 date.day

/-- Hour, minute and second between colons, and the fraction. -/
def Time.iso (time : Time) : List Char :=
  zeroPadded 2 time.hour ++ ':' :: zeroPadded 2 time.minute ++
    ':' :: zeroPadded 2 time.shownSecond ++ fractionText time.fraction

/-- Date and time around a capital T. -/
def DateTime.iso (moment : DateTime) : List Char := moment.date.iso ++ 'T' :: moment.time.iso

end Reckoner
