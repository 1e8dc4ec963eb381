import Rollout.Text.Blank
import Rollout.Text.Hex
import Rollout.Hash.Keccak
import Rollout.Value

/-!
# Account addresses

An address is the text `0x` followed by forty hexadecimal digits in any letter case.  A text that
mixes letter cases may in addition carry a checksum: each letter is a capital exactly where the
hash of the small digits has a digit of eight or more.
-/

namespace Rollout

/-- Whether a text is `0x` and forty hexadecimal digits. -/
def isAddressText (text : String) : Bool :=
  match text.toList with
  | '0' :: 'x' :: digits => digits.length == 40 && digits.all Text.isHexDigit
  | _ => false

/-- The text of an account address. -/
structure Address where
  /-- The text as it was given. -/
  text : String
  /-- The text has the form of an address. -/
  valid : isAddressText text = true
  deriving DecidableEq

/-- Why a value is not an address. -/
inductive AddressFault where
  /-- The value is of another kind than a text. -/
  | notText (kind : String)
  /-- The text does not have the form of an address. -/
  | malformed (text : String)

namespace AddressFault

/-- The complaint about the address called `label`. -/
def message (label : String) : AddressFault → String
  | notText kind => s!"Invalid address for {label}: expected string, got {kind}"
  | malformed text => s!"Invalid address format for {label}: {text}"

end AddressFault

namespace Address

/-- Accept a text that has the form of an address. -/
def ofText (text : String) : Except AddressFault Address :=
  if valid : isAddressText text = true then .ok ⟨text, valid⟩ else .error (.malformed text)

/-- Accept a value that is the text of an address. -/
def ofValue : Value → Except AddressFault Address
  | .text content => ofText content
  | value => .error (.notText value.kind)

/-- The forty digits. -/
def digits (address : Address) : List Char := address.text.toList.drop 2

/-- The digits in small letters. -/
def lowerDigits (address : Address) : List Char := address.digits.map Text.lowerHex

/-- The address in small letters. -/
def lower (address : Address) : String := String.ofList ('0' :: 'x' :: address.lowerDigits)

end Address

namespace Checksum

/-- Forty small digits with the letter case that their hash asks for. -/
def mark (digits : List Char) : List Char :=
  let hash := Text.hexOfBytes (Hash.keccak256Text digits)
  List.zipWith (fun c h => if 8 ≤ Text.hexValue h then Text.upperHex c else c) digits hash

/-- Whether both letter cases occur among digits. -/
def isMixed (digits : List Char) : Bool :=
  digits.any Text.isUpperHex && digits.any Text.isLowerHex

/-- Whether digits in mixed case are marked as their hash asks; digits in one case always
pass. -/
def accepts (digits : List Char) : Bool :=
  !isMixed digits || mark (digits.map Text.lowerHex) == digits

end Checksum

/-- Whether the address passes the checksum of mixed letter case. -/
def Address.isChecked (address : Address) : Bool := Checksum.accepts address.digits

end Rollout
