/-! # Long integers

Integers of 64 bits with sign. A long is an integer together with its bounds, so that arithmetic is
arithmetic of integers followed by one test: an operation whose exact result lies outside the bounds
has no result.
-/

namespace Reckoner

/-- An integer between -2^63 and 2^63 - 1. -/
structure Long where
  val : Int
  lower : -9223372036854775808 ≤ val
  upper : val ≤ 9223372036854775807
deriving DecidableEq

namespace Long

def ofInt? (value : Int) : Option Long :=
  if bounds : -9223372036854775808 ≤ value ∧ value ≤ 9223372036854775807 then
    some ⟨value, bounds.1, bounds.2⟩
  else none

instance : OfNat Long 0 := ⟨⟨0, by decide, by decide⟩⟩
instance : OfNat Long 1 := ⟨⟨1, by decide, by decide⟩⟩
instance : Inhabited Long := ⟨0⟩

theorem ext_val {left right : Long} (same : left.val = right.val) : left = right := by
  cases left; cases right; cases same; rfl

/-- The long of an integer is the one with that value. -/
theorem ofInt?_eq_some_iff {value : Int} {long : Long} :
    ofInt? value = some long ↔ long.val = value := by
  unfold ofInt?
  split
  · rw [Option.some.injEq]
    exact ⟨fun same => same ▸ rfl, fun same => ext_val same.symm⟩
  · rename_i outside
    refine ⟨fun absurdity => (nomatch absurdity), fun same => ?_⟩
    exact absurd ⟨same ▸ long.lower, same ▸ long.upper⟩ outside

/-- The exact sum, within the bounds. -/
def add? (left right : Long) : Option Long := ofInt? (left.val + right.val)

def sub? (left right : Long) : Option Long := ofInt? (left.val - right.val)

def mul? (left right : Long) : Option Long := ofInt? (left.val * right.val)

/-- The opposite, which the least long lacks. -/
def neg? (long : Long) : Option Long := ofInt? (-long.val)

/-- The absolute value, which the least long lacks. -/
def abs? (long : Long) : Option Long := ofInt? long.val.natAbs

end Long

end Reckoner
