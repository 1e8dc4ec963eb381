import Rollout.Number.Basic
import Rollout.Text.Blank
import Rollout.Text.Hex

/-!
# Numerals

Reading decimal fractions with an exponent, and the wider grammar of numerals typed on a command
line: blanks around the numeral, a sign, `Infinity`, and unsigned integers in base sixteen, eight
or two.
-/

namespace Rollout

/-- A decimal `coefficient * 10 ^ exponent` with a sign. -/
structure Decimal where
  /-- Whether a minus sign stands in front. -/
  negative : Bool
  /-- All digits read as one integer. -/
  coefficient : Nat
  /-- The power of ten of the last digit. -/
  exponent : Int

namespace Decimal

/-- The nearest number.  An exponent so large or so small that the outcome is settled is not
expanded. -/
def toNumber (decimal : Decimal) : Number :=
  let magnitude : Int := (Nat.toDigits 10 decimal.coefficient).length + decimal.exponent
  if decimal.coefficient = 0 then Number.signedInt decimal.negative 0
  else if 400 < magnitude then Number.infinite decimal.negative
  else if magnitude < -400 then Number.signedInt decimal.negative 0
  else if 0 ≤ decimal.exponent then
    Number.round decimal.negative (decimal.coefficient * powerOf 10 decimal.exponent.toNat) 1
  else Number.round decimal.negative decimal.coefficient (powerOf 10 (-decimal.exponent).toNat)

end Decimal

namespace Text

/-- The number that digits write in a base, most significant first. -/
def numberInBase (base : Nat) (digits : List Char) : Nat :=
  digits.foldl (fun number c => number * base + hexValue c) 0

/-- The decimal digits that a text starts with, and the rest. -/
def spanDigits (text : List Char) : List Char × List Char :=
  (text.takeWhile isDecimalDigit, text.dropWhile isDecimalDigit)

/-- Read an exponent part that ends the text; the empty text is exponent zero. -/
def exponentPart? : List Char → Option Int
  | [] => some 0
  | mark :: rest =>
      if mark = 'e' ∨ mark = 'E' then
        let (negative, digits) :=
          match rest with
          | '+' :: digits => (false, digits)
          | '-' :: digits => (true, digits)
          | digits => (false, digits)
        if digits.isEmpty || !digits.all isDecimalDigit then none
        else
          let value : Int := numberInBase 10 digits
          some (if negative then -value else value)
      else none

/-- Read an unsigned decimal: digits with an optional fraction and exponent, or a fraction
alone. -/
def unsignedDecimal? (negative : Bool) (text : List Char) : Option Decimal :=
  let (whole, rest) := spanDigits text
  let (fraction, rest) :=
    match rest with
    | '.' :: rest => spanDigits rest
    | rest => ([], rest)
  if whole.isEmpty && fraction.isEmpty then none
  else
    (exponentPart? rest).map fun exponent =>
      ⟨negative, numberInBase 10 (whole ++ fraction), exponent - fraction.length⟩

/-- Read an unsigned integer with a base mark, such as `0xff`. -/
def markedInteger? : List Char → Option Nat
  | '0' :: mark :: digits =>
      let base? :=
        if mark = 'x' ∨ mark = 'X' then some 16
        else if mark = 'o' ∨ mark = 'O' then some 8
        else if mark = 'b' ∨ mark = 'B' then some 2
        else none
      match base? with
      | none => none
      | some base =>
          if digits.isEmpty || !digits.all (fun c => isHexDigit c && hexValue c < base) then none
          else some (numberInBase base digits)
  | _ => none

/-- Split an optional sign off a text; the flag tells a minus sign. -/
def splitSign : List Char → Bool × List Char
  | '-' :: rest => (true, rest)
  | '+' :: rest => (false, rest)
  | rest => (false, rest)

end Text

namespace Number

open Text

/-- Read a numeral; the blank text is zero. -/
def ofText? (text : String) : Option Number :=
  let body := trim text.toList
  if body.isEmpty then some (int 0)
  else
    match markedInteger? body with
    | some value => some (ofInt value)
    | none =>
        let (negative, rest) := splitSign body
        if rest = "Infinity".toList then some (infinite negative)
        else (unsignedDecimal? negative rest).map Decimal.toNumber

/-- Read a positive integer. -/
def positiveInteger? (text : String) : Option Number :=
  (ofText? text).filter fun number => number.isInteger && number.exceeds 0

end Number

namespace Text

/-- Read an integer of any size: blanks around it, and either decimal digits with an optional
sign or an unsigned integer with a base mark; the blank text is zero. -/
def bigInteger? (text : List Char) : Option Int :=
  let body := trim text
  if body.isEmpty then some 0
  else
    match markedInteger? body with
    | some value => some value
    | none =>
        let (negative, digits) := splitSign body
        if digits.isEmpty || !digits.all isDecimalDigit then none
        else
          let value : Int := numberInBase 10 digits
          some (if negative then -value else value)

end Text

end Rollout
