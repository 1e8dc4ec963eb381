import Rollout.Text.Units
import Rollout.Text.Hex
import Rollout.Value

/-!
# Hexadecimal data

Data is the text `0x` followed by an even number of hexadecimal digits in any letter case.
-/

namespace Rollout

/-- Why a value is not hexadecimal data. -/
inductive HexFault where
  /-- The value is of another kind than a text. -/
  | notText (kind : String)
  /-- The text does not start with `0x`. -/
  | unmarked
  /-- The first character that is no digit, with its place among the digits. -/
  | strayCharacter (index : Nat) (character : Char)
  /-- The digits do not pair up into bytes. -/
  | oddDigits

namespace HexFault

/-- The complaint about the data called `label`. -/
def message (label : String) (fault : HexFault) : String :=
  let reason :=
    match fault with
    | notText kind => s!"expected string, got {kind}"
    | unmarked => "must start with '0x'"
    | strayCharacter index character =>
        s!"non-hex character at index {index} ('{character}')"
    | oddDigits => "odd number of hex digits"
  s!"Invalid hex data for {label}: {reason}"

end HexFault

namespace HexData

/-- The first character that is no hexadecimal digit and its place, which counts from
`index`. -/
def firstStray? (index : Nat) : List Char → Option (Nat × Char)
  | [] => none
  | c :: rest =>
      if Text.isHexDigit c then firstStray? (index + 1) rest
      else some (index, if Text.unitWidth c = 1 then c else Text.halfCharacter)

/-- Whether digits are hexadecimal and pair up. -/
def fault? (digits : List Char) : Option HexFault :=
  match firstStray? 0 digits with
  | some (index, character) => some (.strayCharacter index character)
  | none => if digits.length % 2 = 0 then none else some .oddDigits

/-- Accept a text that is hexadecimal data. -/
def ofText (text : String) : Except HexFault String :=
  match text.toList with
  | '0' :: 'x' :: digits =>
      match fault? digits with
      | none => .ok text
      | some fault => .error fault
  | _ => .error .unmarked

/-- Accept a value that is hexadecimal data. -/
def ofValue : Value → Except HexFault String
  | .text content => ofText content
  | value => .error (.notText value.kind)

end HexData

end Rollout
