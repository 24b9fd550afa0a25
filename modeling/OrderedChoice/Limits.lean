/-!
# Limits of a match

Ordered choice can match the same input many times over, and a left-recursive grammar never comes to
an end by itself. The limits turn both into a halt.
-/

namespace OrderedChoice

/-- How much work a match may do, and whether it keeps the results of structures for reuse. -/
structure Limits where
  /-- How many matchers may be invoked. -/
  fuel : Nat
  /-- How deep structures may be nested. -/
  recursion : Nat
  memoize : Bool
deriving DecidableEq, Repr

namespace Limits

def standard : Limits :=
  ⟨1000000, 512, false⟩

end Limits

end OrderedChoice
