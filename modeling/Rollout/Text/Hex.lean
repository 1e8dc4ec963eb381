/-!
# Hexadecimal digits

Reading digits in either letter case and writing them in lower case.
-/

namespace Rollout.Text

/-- A decimal digit. -/
def isDecimalDigit (c : Char) : Bool := '0' ≤ c && c ≤ '9'

/-- A capital letter that is a hexadecimal digit. -/
def isUpperHex (c : Char) : Bool := 'A' ≤ c && c ≤ 'F'

/-- A small letter that is a hexadecimal digit. -/
def isLowerHex (c : Char) : Bool := 'a' ≤ c && c ≤ 'f'

/-- A hexadecimal digit in either letter case. -/
def isHexDigit (c : Char) : Bool := isDecimalDigit c || isLowerHex c || isUpperHex c

/-- The value of a hexadecimal digit. -/
def hexValue (c : Char) : Nat :=
  if isDecimalDigit c then c.toNat - '0'.toNat
  else if isLowerHex c then c.toNat - 'a'.toNat + 10
  else c.toNat - 'A'.toNat + 10

/-- The number that hexadecimal digits write, most significant first. -/
def hexNumber (digits : List Char) : Nat :=
  digits.foldl (fun number c => number * 16 + hexValue c) 0

/-- The digit of a value below sixteen. -/
def hexDigit (value : Nat) : Char :=
  if value < 10 then Char.ofNat ('0'.toNat + value) else Char.ofNat ('a'.toNat + (value - 10))

/-- A capital hexadecimal letter made small; any other character as it is. -/
def lowerHex (c : Char) : Char :=
  if isUpperHex c then Char.ofNat (c.toNat + 32) else c

/-- A small hexadecimal letter made capital; any other character as it is. -/
def upperHex (c : Char) : Char :=
  if isLowerHex c then Char.ofNat (c.toNat - 32) else c

/-- A number in exactly `width` digits, its higher digits dropped. -/
def hexOfWidth : Nat → Nat → List Char
  | 0, _ => []
  | width + 1, number => hexOfWidth width (number / 16) ++ [hexDigit (number % 16)]

/-- Each byte in two digits. -/
def hexOfBytes (bytes : List UInt8) : List Char :=
  bytes.flatMap fun byte => [hexDigit (byte.toNat / 16), hexDigit (byte.toNat % 16)]

@[simp]
theorem length_hexOfWidth (width number : Nat) : (hexOfWidth width number).length = width := by
  induction width generalizing number with
  | zero => rfl
  | succ width ih => simp [hexOfWidth, ih]

end Rollout.Text
