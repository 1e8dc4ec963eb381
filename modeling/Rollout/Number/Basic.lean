import Rollout.Number.Power

/-!
# Binary sixty-four bit numbers, exactly

A number is stored by its value, not by its bits: an integer, a proper binary fraction in lowest
terms, the negative zero, one of the two infinities or the value for "not a number".  Whoever reads
a number and may fail to find one answers with an option.  Every finite result is the rational
result rounded to the nearest representable number, a tie to the even neighbour.
-/

namespace Rollout

/-- A number of binary64 in canonical form. -/
inductive Number where
  /-- An integer other than the negative zero. -/
  | int (value : Int)
  /-- Plus or minus `numerator / 2 ^ halvings`, with an odd numerator and at least one halving. -/
  | fraction (negative : Bool) (numerator halvings : Nat)
  /-- The zero that carries a minus sign. -/
  | negativeZero
  /-- A value beyond the largest finite number. -/
  | infinite (negative : Bool)
  /-- The value that is not a number; it is neither above nor below any other. -/
  | notANumber
  deriving DecidableEq, Inhabited

namespace Number

/-- Whether the number is an integer, zeros included. -/
def isInteger : Number → Bool
  | int _ => true
  | negativeZero => true
  | _ => false

/-- The integer that the number equals, if any; both zeros are zero. -/
def toInt? : Number → Option Int
  | int value => some value
  | negativeZero => some 0
  | _ => none

/-- Whether the number counts as zero, as zeros of either sign and the value that is not a number
do. -/
def isZero : Number → Bool
  | int value => value == 0
  | negativeZero | notANumber => true
  | _ => false

/-- Remove factors of two that numerator and denominator share. -/
def cancelHalvings (numerator : Nat) : Nat → Nat × Nat
  | 0 => (numerator, 0)
  | halvings + 1 =>
      if numerator % 2 = 0 then cancelHalvings (numerator / 2) halvings
      else (numerator, halvings + 1)

/-- An integer with a separate sign, so that the negative zero can be told apart. -/
def signedInt (negative : Bool) (magnitude : Nat) : Number :=
  if negative then if magnitude = 0 then negativeZero else int (-(magnitude : Int))
  else int magnitude

/-- The canonical form of plus or minus `numerator / 2 ^ halvings`. -/
def ofBinary (negative : Bool) (numerator halvings : Nat) : Number :=
  if numerator = 0 then signedInt negative 0
  else
    let (numerator, halvings) := cancelHalvings numerator halvings
    if halvings = 0 then signedInt negative numerator else fraction negative numerator halvings

/-- The quotient rounded to the nearest integer, a tie to the even neighbour. -/
def roundQuotient (numerator denominator : Nat) : Nat :=
  let quotient := numerator / denominator
  let twice := 2 * (numerator % denominator)
  if twice < denominator then quotient
  else if denominator < twice then quotient + 1
  else if quotient % 2 = 0 then quotient else quotient + 1

/-- The exponent of the largest power of two that is at most `numerator / denominator`. -/
def binaryExponent (numerator denominator : Nat) : Int :=
  let guess : Int := (Nat.log2 numerator : Int) - Nat.log2 denominator
  let fits :=
    if 0 ≤ guess then denominator * powerOf 2 guess.toNat ≤ numerator
    else denominator ≤ numerator * powerOf 2 (-guess).toNat
  if fits then guess else guess - 1

/-- The representable number nearest to plus or minus `numerator / denominator`. -/
def round (negative : Bool) (numerator denominator : Nat) : Number :=
  if numerator = 0 then signedInt negative 0
  else
    let spacing := max (binaryExponent numerator denominator - 52) (-1074)
    if 0 ≤ spacing then
      let unit := powerOf 2 spacing.toNat
      let magnitude := roundQuotient numerator (denominator * unit) * unit
      if powerOf 2 1024 ≤ magnitude then infinite negative else signedInt negative magnitude
    else
      let halvings := (-spacing).toNat
      ofBinary negative (roundQuotient (numerator * powerOf 2 halvings) denominator) halvings

/-- The representable number nearest to an integer. -/
def ofInt (value : Int) : Number := round (value < 0) value.natAbs 1

/-- A finite number as a signed numerator over a power of two. -/
def ratio? : Number → Option (Int × Nat)
  | int value => some (value, 0)
  | fraction negative numerator halvings =>
      some (if negative then -(numerator : Int) else numerator, halvings)
  | negativeZero => some (0, 0)
  | infinite _ | notANumber => none

/-- Add an integer. -/
def addInt (number : Number) (summand : Int) : Number :=
  match number.ratio? with
  | none => number
  | some (numerator, halvings) =>
      let sum := numerator + summand * powerOf 2 halvings
      round (sum < 0) sum.natAbs (powerOf 2 halvings)

/-- Twice the number. -/
def double (number : Number) : Number :=
  match number with
  | int value => ofInt (2 * value)
  | fraction negative numerator halvings => ofBinary negative numerator (halvings - 1)
  | negativeZero => negativeZero
  | infinite negative => infinite negative
  | notANumber => notANumber

/-- Whether the number is greater than an integer. -/
def exceeds (number : Number) (bound : Int) : Bool :=
  match number with
  | infinite negative => !negative
  | number =>
      match number.ratio? with
      | some (numerator, halvings) => bound * powerOf 2 halvings < numerator
      | none => false

/-- Whether the number is less than an integer. -/
def isBelow (number : Number) (bound : Int) : Bool :=
  match number with
  | infinite negative => negative
  | number =>
      match number.ratio? with
      | some (numerator, halvings) => numerator < bound * powerOf 2 halvings
      | none => false

/-- The integer part toward zero of a finite number. -/
def truncate? (number : Number) : Option Int :=
  number.ratio?.map fun (numerator, halvings) => Int.tdiv numerator (powerOf 2 halvings)

end Number

end Rollout
