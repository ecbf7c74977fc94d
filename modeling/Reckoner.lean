import Reckoner.Main
import Reckoner.Proofs.Alike
import Reckoner.Proofs.Calendar.Standard
import Reckoner.Proofs.Calendar.Suffix
import Reckoner.Proofs.Culprit
import Reckoner.Proofs.Expression
import Reckoner.Proofs.Folding.Arithmetic
import Reckoner.Proofs.Folding.Concealment
import Reckoner.Proofs.Folding.Constant
import Reckoner.Proofs.Folding.Covering
import Reckoner.Proofs.Folding.Failure
import Reckoner.Proofs.Folding.Final
import Reckoner.Proofs.Folding.Formed
import Reckoner.Proofs.Folding.FormedReduction
import Reckoner.Proofs.Folding.Function
import Reckoner.Proofs.Folding.Grouped
import Reckoner.Proofs.Folding.Inputs
import Reckoner.Proofs.Folding.Mirror
import Reckoner.Proofs.Folding.Normal
import Reckoner.Proofs.Folding.Operator
import Reckoner.Proofs.Folding.Quotient
import Reckoner.Proofs.Folding.Reduction
import Reckoner.Proofs.Folding.Refinement
import Reckoner.Proofs.Folding.Rules
import Reckoner.Proofs.Folding.Verdict
import Reckoner.Proofs.Grammar.Connective
import Reckoner.Proofs.Grammar.Form
import Reckoner.Proofs.Grammar.Numeric
import Reckoner.Proofs.Grammar.Operation
import Reckoner.Proofs.Grammar.Precedence
import Reckoner.Proofs.Grammar.Recasing
import Reckoner.Proofs.Grammar.Standard
import Reckoner.Proofs.Grammar.Truth
import Reckoner.Proofs.Grammar.Whole
import Reckoner.Proofs.Integer.Agreement
import Reckoner.Proofs.Integer.Amount
import Reckoner.Proofs.Integer.Flattening
import Reckoner.Proofs.Integer.Folding
import Reckoner.Proofs.Number.Decimal
import Reckoner.Proofs.Number.Digits
import Reckoner.Proofs.Number.Nearest
import Reckoner.Proofs.Number.Numeral
import Reckoner.Proofs.Outcome
import Reckoner.Proofs.Reading
import Reckoner.Proofs.Register
import Reckoner.Proofs.Registration
import Reckoner.Proofs.Settings.Declaration
import Reckoner.Proofs.Settings.Literal
import Reckoner.Proofs.Source.Balance
import Reckoner.Proofs.Source.Join
import Reckoner.Proofs.Source.Literal
import Reckoner.Proofs.Source.LiteralCase
import Reckoner.Proofs.Source.Name
import Reckoner.Proofs.Source.Part
import Reckoner.Proofs.Source.Recasing
import Reckoner.Proofs.Source.Splitting
import Reckoner.Proofs.Source.Surface
import Reckoner.Proofs.Source.Token
import Reckoner.Proofs.Source.Trim
import Reckoner.Proofs.Text.AsciiCase
import Reckoner.Proofs.Text.Case
import Reckoner.Proofs.Typing.Function
import Reckoner.Proofs.Typing.Operator
import Reckoner.Proofs.Typing.Position
import Reckoner.Proofs.Typing.Soundness
import Reckoner.Proofs.Typing.Value
import Reckoner.Proofs.Value.Comparison
import Reckoner.Proofs.Value.Extremum
import Reckoner.Proofs.Value.Kleene
import Reckoner.Proofs.Value.Order
import Reckoner.Proofs.Writing.Atom
import Reckoner.Proofs.Writing.Canonical
import Reckoner.Proofs.Writing.Denotation
import Reckoner.Proofs.Writing.Exact
import Reckoner.Proofs.Writing.Expression
import Reckoner.Proofs.Writing.Grouping
import Reckoner.Proofs.Writing.Literal
import Reckoner.Proofs.Writing.Name
import Reckoner.Proofs.Writing.Numeral
import Reckoner.Proofs.Writing.Operation
import Reckoner.Proofs.Writing.Reduced
import Reckoner.Proofs.Writing.Registered
import Reckoner.Proofs.Writing.Reread
import Reckoner.Proofs.Writing.RoundTrip
import Reckoner.Proofs.Writing.Sayable
import Reckoner.Proofs.Writing.Sign
import Reckoner.Proofs.Writing.Solid
import Reckoner.Proofs.Writing.Value
import Reckoner.Proofs.Writing.Year
