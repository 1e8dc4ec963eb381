/-!
# Powers

Powers of natural numbers, in the one form that every module uses.
-/

namespace Rollout

/-- A power of a natural number. -/
def powerOf (base exponent : Nat) : Nat := Nat.pow base exponent

end Rollout
