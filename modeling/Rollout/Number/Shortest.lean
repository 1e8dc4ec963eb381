import Rollout.Number.Basic

/-!
# The shortest text of a number

A number is written with the fewest significant digits that still read back as that number, of
two such decimals the one nearer to the value.  From 10^21 on and below 10^-6 the text has an
exponent; otherwise it is positional.
-/

namespace Rollout.Number

/-- A positive finite value as `mantissa * 2 ^ exponent` at the spacing of its neighbours. -/
structure Spaced where
  /-- The value in units of its spacing. -/
  mantissa : Nat
  /-- The spacing is two to this power. -/
  exponent : Int

/-- The spacing form of `numerator / 2 ^ halvings`. -/
def spaced (numerator halvings : Nat) : Spaced :=
  let exponent := max (binaryExponent numerator (powerOf 2 halvings) - 52) (-1074)
  if 0 ≤ exponent + halvings then ⟨numerator / powerOf 2 (exponent + halvings).toNat, exponent⟩
  else ⟨numerator * powerOf 2 (-(exponent + halvings)).toNat, exponent⟩

/-- The exponent of the largest power of ten that is at most `numerator / denominator`, searched
upward from a lower bound. -/
def decimalExponent (numerator denominator : Nat) : Nat → Int → Int
  | 0, guess => guess
  | fuel + 1, guess =>
      let next := guess + 1
      let fits :=
        if 0 ≤ next then denominator * powerOf 10 next.toNat ≤ numerator
        else denominator ≤ numerator * powerOf 10 (-next).toNat
      if fits then decimalExponent numerator denominator fuel next else guess

/-- Four times a value and the two ends of the interval that rounds to it, in a common unit. -/
structure Interval where
  /-- The lower end. -/
  low : Nat
  /-- The value itself. -/
  value : Nat
  /-- The upper end. -/
  high : Nat
  /-- Whether the ends round to the value, too. -/
  closed : Bool
  /-- The unit is one over this. -/
  denominator : Nat

/-- The interval of reals that round to a value.  Below a power of two the lower neighbour is
only half as far away. -/
def Interval.around (value : Spaced) : Interval :=
  let down := if value.mantissa = powerOf 2 52 ∧ -1074 < value.exponent then 1 else 2
  let scale := if 0 ≤ value.exponent then powerOf 2 value.exponent.toNat else 1
  { low := (4 * value.mantissa - down) * scale
    value := 4 * value.mantissa * scale
    high := (4 * value.mantissa + 2) * scale
    closed := value.mantissa % 2 = 0
    denominator := 4 * if 0 ≤ value.exponent then 1 else powerOf 2 (-value.exponent).toNat }

/-- Whether `count * 10 ^ power` lies in the interval. -/
def Interval.holds (interval : Interval) (count : Nat) (power : Int) : Bool :=
  let point := count * interval.denominator * (if 0 ≤ power then powerOf 10 power.toNat else 1)
  let scale := if 0 ≤ power then 1 else powerOf 10 (-power).toNat
  if interval.closed then interval.low * scale ≤ point && point ≤ interval.high * scale
  else interval.low * scale < point && point < interval.high * scale

/-- The point of the grid `10 ^ power` in the interval that is nearest to the value, if the grid
has one. -/
def Interval.nearest? (interval : Interval) (power : Int) : Option Nat :=
  let numerator := interval.value * (if 0 ≤ power then 1 else powerOf 10 (-power).toNat)
  let denominator := interval.denominator * (if 0 ≤ power then powerOf 10 power.toNat else 1)
  let below := numerator / denominator
  match interval.holds below power, interval.holds (below + 1) power with
  | true, true =>
      if 2 * (numerator % denominator) ≤ denominator then some below else some (below + 1)
  | true, false => some below
  | false, true => some (below + 1)
  | false, false => none

/-- Search the grids from coarse to fine. -/
def Interval.shortest (interval : Interval) : Nat → Int → Nat × Int
  | 0, power => (interval.value * powerOf 10 (-power).toNat / interval.denominator, power)
  | fuel + 1, power =>
      match interval.nearest? power with
      | some count => (count, power)
      | none => interval.shortest fuel (power - 1)

/-- The digits of a positive value and the power of ten of the last of them. -/
def shortestDigits (numerator halvings : Nat) : Nat × Int :=
  let interval := Interval.around (spaced numerator halvings)
  interval.shortest 17 (decimalExponent numerator (powerOf 2 halvings) 700 (-330))

/-- Remove trailing zeros. -/
def dropZeros : Nat → Nat → Int → Nat × Int
  | 0, count, power => (count, power)
  | fuel + 1, count, power =>
      if count % 10 = 0 then dropZeros fuel (count / 10) (power + 1) else (count, power)

/-- Arrange digits whose last one counts `10 ^ power`. -/
def layout (digits : List Char) (power : Int) : List Char :=
  let point := power + digits.length
  if digits.length ≤ point ∧ point ≤ 21 then
    digits ++ List.replicate (point - digits.length).toNat '0'
  else if 0 < point ∧ point ≤ 21 then
    digits.take point.toNat ++ '.' :: digits.drop point.toNat
  else if -6 < point ∧ point ≤ 0 then
    '0' :: '.' :: (List.replicate (-point).toNat '0' ++ digits)
  else
    let exponent := point - 1
    let sign := if exponent < 0 then '-' else '+'
    let mantissa :=
      match digits with
      | [] => []
      | [only] => [only]
      | head :: rest => head :: '.' :: rest
    mantissa ++ 'e' :: sign :: Nat.toDigits 10 exponent.natAbs

/-- The text of a positive value `numerator / 2 ^ halvings`. -/
def magnitudeText (numerator halvings : Nat) : List Char :=
  let (count, power) := shortestDigits numerator halvings
  let (count, power) := dropZeros 20 count power
  layout (Nat.toDigits 10 count) power

/-- The text of a natural number; below 2^53 it is the plain decimal. -/
def naturalText (value : Nat) : List Char :=
  if value < powerOf 2 53 then Nat.toDigits 10 value else magnitudeText value 0

/-- The shortest text that reads back as the number; both zeros are written `0`. -/
def text : Number → String
  | int value =>
      let digits := naturalText value.natAbs
      String.ofList (if value < 0 then '-' :: digits else digits)
  | fraction negative numerator halvings =>
      String.ofList
        (if negative then '-' :: magnitudeText numerator halvings
          else magnitudeText numerator halvings)
  | negativeZero => "0"
  | infinite negative => if negative then "-Infinity" else "Infinity"
  | notANumber => "NaN"

end Rollout.Number
