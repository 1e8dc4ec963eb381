import Rollout.Number.Numeral
import Rollout.Url.Domain

/-!
# Numeric hosts

Hosts that are written as numbers: four bytes of which the last number may fill several, in base
ten, eight or sixteen; or eight groups of sixteen bits, of which one run of zeros may be left out
and the last two may be written as four bytes.
-/

namespace Rollout.Url

/-- Read a number with its base mark: `0x` for sixteen, a leading zero for eight. -/
def number? (digits : List Char) : Option Nat :=
  let read (base : Nat) (digits : List Char) : Option Nat :=
    if digits.all (fun c => Text.isHexDigit c && Text.hexValue c < base) then
      some (Text.numberInBase base digits)
    else none
  match digits with
  | [] => none
  | '0' :: 'x' :: rest => read 16 rest
  | '0' :: 'X' :: rest => read 16 rest
  | '0' :: c :: rest => read 8 (c :: rest)
  | digits => read 10 digits

/-- The parts of a host between dots, without an empty last one. -/
def dottedParts (host : List Char) : List (List Char) :=
  let parts := Domain.splitAt '.' host
  match parts.getLast?, parts with
  | some [], _ :: _ :: _ => parts.dropLast
  | _, _ => parts

/-- Whether the last part of a host is a number. -/
def endsInNumber (host : List Char) : Bool :=
  match (dottedParts host).getLast? with
  | some last => !last.isEmpty && (last.all Text.isDecimalDigit || (number? last).isSome)
  | none => false

/-- Whether numbers fit: each but the last into a byte, the last into the bytes that remain. -/
def fitsBytes (remaining : Nat) : List Nat → Bool
  | [] => false
  | [last] => last < powerOf 256 remaining
  | value :: rest => value < 256 && fitsBytes (remaining - 1) rest

/-- Whether a host that ends in a number is an address of four bytes. -/
def isFourByteAddress (host : List Char) : Bool :=
  let parts := dottedParts host
  let numbers := parts.filterMap number?
  parts.length ≤ 4 && numbers.length == parts.length && fitsBytes 4 numbers

/-- Whether a text is a byte in base ten without leading zeros. -/
def isPlainByte (digits : List Char) : Bool :=
  !digits.isEmpty && digits.all Text.isDecimalDigit &&
    (digits.length == 1 || digits.head? != some '0') && Text.numberInBase 10 digits < 256

/-- Whether a text is four bytes in base ten. -/
def isDottedQuad (text : List Char) : Bool :=
  let parts := Domain.splitAt '.' text
  parts.length == 4 && parts.all isPlainByte

/-- Whether a text is a group of sixteen bits. -/
def isGroup (text : List Char) : Bool :=
  1 ≤ text.length && text.length ≤ 4 && text.all Text.isHexDigit

/-- The number of groups that parts between colons fill, if each is one; the last may be four
bytes, which fill two. -/
def groupCount? : List (List Char) → Option Nat
  | [] => some 0
  | [last] => if isGroup last then some 1 else if isDottedQuad last then some 2 else none
  | part :: rest => if isGroup part then (groupCount? rest).map (· + 1) else none

/-- The number of groups of a text between colons; the empty text has none. -/
def groupsOf? (text : List Char) : Option Nat :=
  if text.isEmpty then some 0 else groupCount? (Domain.splitAt ':' text)

/-- Split a text at its first two colons in a row. -/
def splitAtGap? : List Char → Option (List Char × List Char)
  | ':' :: ':' :: rest => some ([], rest)
  | c :: rest => (splitAtGap? rest).map fun (before, after) => (c :: before, after)
  | [] => none

/-- Whether every part between colons is a group. -/
def areGroups (text : List Char) : Bool :=
  text.isEmpty || (Domain.splitAt ':' text).all isGroup

/-- Whether a text is an address of eight groups. -/
def isGroupedAddress (text : List Char) : Bool :=
  match splitAtGap? text with
  | none => groupsOf? text == some 8
  | some (before, after) =>
      areGroups before &&
        (match groupsOf? before, groupsOf? after with
          | some left, some right => left + right ≤ 7
          | _, _ => false)

end Rollout.Url
