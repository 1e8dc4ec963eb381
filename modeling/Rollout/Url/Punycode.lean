import Rollout.Text.Hex

/-!
# Punycode

Reading a label whose characters outside ASCII are encoded behind the last hyphen: each number
there tells how far to go on, over code points and places, before the next character is inserted.
-/

namespace Rollout.Url.Punycode

/-- The value of a digit in base thirty-six; letters come first. -/
def digitValue? (c : Char) : Option Nat :=
  if 'a' ≤ c ∧ c ≤ 'z' then some (c.toNat - 'a'.toNat)
  else if Text.isDecimalDigit c then some (c.toNat - '0'.toNat + 26)
  else none

/-- The least value with which the digit of a weight class does not end a number. -/
def threshold (weightClass bias : Nat) : Nat :=
  if weightClass ≤ bias then 1 else if bias + 26 ≤ weightClass then 26 else weightClass - bias

/-- Reduce a distance until it is small, counting the steps. -/
def reduceDistance : Nat → Nat → Nat → Nat
  | 0, steps, distance => steps + 36 * distance / (distance + 38)
  | fuel + 1, steps, distance =>
      if 455 < distance then reduceDistance fuel (steps + 36) (distance / 35)
      else steps + 36 * distance / (distance + 38)

/-- The bias after a distance when the text has a length. -/
def adapt (distance length : Nat) (first : Bool) : Nat :=
  let distance := if first then distance / 700 else distance / 2
  reduceDistance 16 0 (distance + distance / length)

/-- Where decoding stands between two characters. -/
structure State where
  /-- The next code point. -/
  code : Nat
  /-- The next place. -/
  place : Nat
  /-- The bias of the thresholds. -/
  bias : Nat
  /-- The characters so far. -/
  read : List Nat

/-- Numbers beyond this are refused. -/
def limit : Nat := 2147483647

/-- Insert the character that a distance leads to. -/
def State.insert? (state : State) (distance : Nat) : Option State :=
  let length := state.read.length + 1
  let total := state.place + distance
  let code := state.code + total / length
  let place := total % length
  if 0x10FFFF < code ∨ code < 0x80 then none
  else
    some
      { code
        place := place + 1
        bias := adapt distance length (state.place = 0)
        read := state.read.take place ++ code :: state.read.drop place }

/-- Decode the digits of the remaining numbers; the current one stands at `distance`, its next digit
counts `weight`. -/
def decodeDigits (state : State) (distance weight weightClass : Nat) :
    List Char → Option (List Nat)
  | [] => if weight = 1 then some state.read else none
  | c :: rest =>
      match digitValue? c with
      | none => none
      | some digit =>
          let distance := distance + digit * weight
          let bound := threshold weightClass state.bias
          if limit < distance then none
          else if digit < bound then
            match state.insert? distance with
            | some state => decodeDigits state 0 1 36 rest
            | none => none
          else decodeDigits state distance (weight * (36 - bound)) (weightClass + 36) rest

/-- Decode a label without its mark; the result are code points. -/
def decode? (label : List Char) : Option (List Nat) :=
  let reversed := label.reverse
  let digits := (reversed.takeWhile (· ≠ '-')).reverse
  let plain := ((reversed.dropWhile (· ≠ '-')).drop 1).reverse
  decodeDigits ⟨0x80, 0, 72, plain.map Char.toNat⟩ 0 1 36 digits

end Rollout.Url.Punycode
