import Reckoner.Kind

/-! # Dialects

The lexical choices of the language: delimiters, the radix of integers, the spellings of null and of
the truth values, and the forms of dates and times.

Dates, times and moments are read and written by patterns, each by the pattern of its own kind. So what a
dialect reads as a moment is a moment, never a date. Other ways to read and write them are not dialects,
and what is said of every dialect is not said of them.
-/

namespace Reckoner

/-- How expressions are written. The three patterns are for the dates, the times and the moments alone. -/
structure Dialect where
  blockOpen : Char
  blockClose : Char
  stringOpen : Char
  stringClose : Char
  functionOpen : Char
  functionClose : Char
  separator : Char
  radix : Nat
  nullSpelling : String
  trueSpelling : String
  falseSpelling : String
  datePattern : String
  timePattern : String
  momentPattern : String
deriving DecidableEq

namespace Dialect

/-- Parentheses, double quotes, commas, decimal integers, and dates with the day in front. -/
def standard : Dialect where
  blockOpen := '('
  blockClose := ')'
  stringOpen := '"'
  stringClose := '"'
  functionOpen := '('
  functionClose := ')'
  separator := ','
  radix := 10
  nullSpelling := "null"
  trueSpelling := "true"
  falseSpelling := "false"
  datePattern := "%d.%m.%Y"
  timePattern := "%H:%M:%S"
  momentPattern := "%d.%m.%Y %H:%M:%S"

def pattern (dialect : Dialect) : Kind → String
  | .date => dialect.datePattern
  | .time => dialect.timePattern
  | _ => dialect.momentPattern

end Dialect

end Reckoner
