import Reckoner.Dialect.Basic
import Reckoner.FormatError
import Reckoner.Number.Reader
import Reckoner.Text.Case
import Reckoner.Value.Conversion
import Reckoner.Value.Temporal

/-! # Literals

Literals are recognised in a fixed order: the spellings of the truth values and of null, moments,
dates and times, integers in the radix, decimals, quoted texts. Writing a literal first coerces it to
the kind it is declared to have, where it can be.
-/

namespace Reckoner

/-- A double as a literal, which never looks like an integer. -/
def Double.literalText (x : Double) : List Char :=
  let text := EvalError.plainLayout.text x
  if x.isFinite && !text.contains '.' then text ++ ['.', '0'] else text

namespace Dialect

/-- The text between quotes, which does not contain the closing quote. -/
def quotedText? (dialect : Dialect) (text : List Char) : Option (List Char) :=
  match text with
  | [] => none
  | c :: rest =>
    if c = dialect.stringOpen ∧ rest.getLast? = some dialect.stringClose ∧
        !rest.dropLast.contains dialect.stringClose then
      some rest.dropLast
    else none

/-- The temporal value that a text denotes, tried as a moment, a date and a time. -/
def temporal? (dialect : Dialect) (text : List Char) : Option Value :=
  ([.dateTime, .date, .time] : List Kind).findSome? fun kind =>
    Value.ofPattern? kind (dialect.pattern kind) text

def number? (dialect : Dialect) (text : List Char) : Option Value :=
  ((Long.ofNumeral? dialect.radix text).map Value.long).or
    ((Double.read? text).map Value.double)

def literal? (dialect : Dialect) (text : List Char) : Option Value :=
  if Text.sameSpelling text dialect.trueSpelling.toList then some (.boolean true)
  else if Text.sameSpelling text dialect.falseSpelling.toList then some (.boolean false)
  else if Text.sameSpelling text dialect.nullSpelling.toList then some .null
  else (dialect.temporal? text).or ((dialect.number? text).or
    ((dialect.quotedText? text).map fun text => .string (String.ofList text)))

def temporalText (dialect : Dialect) (value : Value) : Except FormatError (List Char) :=
  match Value.byPattern? value.kind (dialect.pattern value.kind) value with
  | some text => .ok text
  | none => .error (.unwritable value.kind)

def valueText (dialect : Dialect) (value : Value) : Except FormatError (List Char) :=
  match value with
  | .null => .ok dialect.nullSpelling.toList
  | .boolean true => .ok dialect.trueSpelling.toList
  | .boolean false => .ok dialect.falseSpelling.toList
  | .long n => .ok (n.numeral dialect.radix)
  | .double x => .ok x.literalText
  | .string text => .ok (dialect.stringOpen :: text.toList ++ [dialect.stringClose])
  | .date _ | .time _ | .dateTime _ => dialect.temporalText value

/-- The value as one of the kind `kind`, or unchanged if it cannot become one. -/
def declared (kind : Kind) (value : Value) : Value :=
  if kind = .null then value else (value.coerce kind).toOption.getD value

def literalText (dialect : Dialect) (kind : Kind) (value : Value) :
    Except FormatError (List Char) :=
  dialect.valueText (declared kind value)

end Dialect

end Reckoner
