/-! # Sets of characters

Large classes of characters are kept as the places where membership changes. -/

namespace Scenario.Text

/-- The code points at which membership changes, in ascending order: what is below the first does
not belong. -/
abbrev CharSet := List Nat

/-- Whether a character belongs: an odd number of changes lie at it or below. -/
def CharSet.has (s : CharSet) (c : Char) : Bool :=
  (s.takeWhile (· ≤ c.toNat)).length % 2 == 1

/-- The empty set has no character. -/
@[simp] theorem CharSet.has_nil (c : Char) : CharSet.has [] c = false := rfl

end Scenario.Text
