import Reckoner.Calendar.Pattern.Read

/-! # Reading ISO texts

Dates, times and moments as they stand in documents. Numbers may be short and blanks may stand
around the marks; a time may lack its seconds, a moment may not.
-/

namespace Reckoner

open PatternItem

private def mark (c : Char) : List Step := [readBlank, readLiteral c]

private def isoDay : List Step :=
  [readNumber .year] ++ mark '-' ++ [readNumber .month] ++ mark '-' ++ [readNumber .day, readBlank]

private def isoSecond : List Step :=
  mark ':' ++ [readNumber .second, afterPoint readLongFraction, readBlank]

private def isoMinute : List Step := [readNumber .hour] ++ mark ':' ++ [readNumber .minute]

def Date.ofIso? (text : List Char) : Option Date :=
  (fieldsOf? isoDay text).bind fun fields => fields.date.toOption

def Time.ofIso? (text : List Char) : Option Time := do
  let (fields, rest) ← inOrder isoMinute Fields.unknown text
  match inOrder isoSecond fields rest with
  | some (fields, []) => fields.time.toOption
  | some (_, _ :: _) => none
  | none => if (Text.trimStart rest).isEmpty then fields.time.toOption else none

def DateTime.ofIso? (text : List Char) : Option DateTime :=
  (fieldsOf? (isoDay ++ [readLiteral 'T'] ++ isoMinute ++ isoSecond) text).bind Fields.moment?

end Reckoner
