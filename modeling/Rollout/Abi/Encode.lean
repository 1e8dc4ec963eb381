import Rollout.Abi.Report
import Rollout.Abi.Signature
import Rollout.Number.Numeral

/-!
# Encoding constructor arguments

Every value fills whole words of thirty-two bytes.  A tuple is written as its heads followed by its
tails: a value of fixed length stands in its head, any other leaves the byte distance to its tail
there.  Encodings are lists of hexadecimal digits, sixty-four to a word.
-/

namespace Rollout

namespace Abi

/-- The digits of a word that holds a number. -/
def word (number : Nat) : List Char := Text.hexOfWidth 64 number

/-- Fill up to whole words with zeros behind the digits. -/
def padded (digits : List Char) : List Char :=
  digits ++ List.replicate ((64 - digits.length % 64) % 64) '0'

/-- Arrange the heads and tails of a tuple whose heads take `size` bytes; the tails so far stand
behind them. -/
def arrangeFrom (size : Nat) (tails : List Char) : List (Bool × List Char) → List Char
  | [] => tails
  | (false, digits) :: rest => digits ++ arrangeFrom size tails rest
  | (true, digits) :: rest =>
      word (size + tails.length / 2) ++ arrangeFrom size (tails ++ digits) rest

/-- The number of bytes that a part takes in the heads. -/
def headSize (part : Bool × List Char) : Nat :=
  if part.1 then 32 else part.2.length / 2

/-- A tuple of encoded parts, each with the mark whether it is a tail. -/
def arrange (parts : List (Bool × List Char)) : List Char :=
  arrangeFrom (parts.foldl (fun size part => size + headSize part) 0) [] parts

/-- The digits of hexadecimal data with a mark in either letter case. -/
def dataDigits? (value : Value) : Option (List Char) :=
  match value with
  | .text content =>
      match content.toList with
      | '0' :: mark :: digits =>
          if (mark = 'x' ∨ mark = 'X') ∧ digits.all Text.isHexDigit ∧
              digits.length % 2 = 0 then
            some (digits.map Text.lowerHex)
          else none
      | _ => none
  | _ => none

/-- The digits of hexadecimal data, or the complaint that the value is none. -/
def dataDigits (value : Value) : Except ArgumentFault (List Char) :=
  match dataDigits? value with
  | some digits => .ok digits
  | none => .error (.invalid "invalid BytesLike value" "value" value)

/-- Read an integer text: a leading minus sign is taken off first. -/
def integerOfText (content : String) : Except ArgumentFault Int :=
  let refuse (reason : String) : Except ArgumentFault Int :=
    .error (.invalid ("invalid BigNumberish string: " ++ reason) "value" (.text content))
  let read (negative : Bool) (digits : List Char) : Except ArgumentFault Int :=
    match Text.bigInteger? digits with
    | some value => .ok (if negative then -value else value)
    | none => refuse ("Cannot convert " ++ String.ofList digits ++ " to a BigInt")
  match content.toList with
  | [] => refuse "empty string"
  | '-' :: '-' :: rest => read false ('-' :: '-' :: rest)
  | '-' :: rest => read true rest
  | digits => read false digits

/-- The largest integer that a number may stand for. -/
def largestSafeInteger : Int := 9007199254740991

/-- Read an integer value. -/
def integerOfValue (value : Value) : Except ArgumentFault Int :=
  match value with
  | .integer value => .ok value
  | .number number =>
      match number.toInt? with
      | none => .error (.invalid "underflow" "value" value)
      | some integer =>
          if -largestSafeInteger ≤ integer ∧ integer ≤ largestSafeInteger then .ok integer
          else .error (.invalid "overflow" "value" value)
  | .text content => integerOfText content
  | value => .error (.invalid "invalid BigNumberish value" "value" value)

/-- Encode an integer of `size` bytes, a negative one as its complement. -/
def integerWord (name : String) (signed : Bool) (size : Nat) (value : Value) :
    Except ArgumentFault (List Char) := do
  let integer ← integerOfValue value
  let bound : Int := powerOf 2 (if signed then size * 8 - 1 else size * 8)
  let least : Int := if signed then -bound else 0
  if least ≤ integer ∧ integer < bound then
    return word (integer % (powerOf 2 256 : Nat)).toNat
  else throw (.invalid "value out-of-bounds" name value)

end Abi

namespace Iban

/-- The value of a letter or digit in base thirty-six. -/
def digitValue (c : Char) : Nat :=
  if Text.isDecimalDigit c then c.toNat - '0'.toNat
  else if 'a' ≤ c ∧ c ≤ 'z' then c.toNat - 'a'.toNat + 10
  else c.toNat - 'A'.toNat + 10

/-- A letter or digit. -/
def isDigit (c : Char) : Bool :=
  Text.isDecimalDigit c || ('a' ≤ c && c ≤ 'z') || ('A' ≤ c && c ≤ 'Z')

/-- The remainder by ninety-seven of letters and digits written in decimal one after the other. -/
def remainder (text : List Char) : Nat :=
  text.foldl
    (fun rest c =>
      let value := digitValue c
      (if value < 10 then rest * 10 + value else rest * 100 + value) % 97) 0

/-- The two check digits of an account number in the country `XE`. -/
def checkDigits (account : List Char) : List Char :=
  let check := 98 - remainder (account ++ "XE00".toList)
  [Text.hexDigit (check / 10), Text.hexDigit (check % 10)]

/-- The account number in base thirty-six. -/
def accountNumber (account : List Char) : Nat :=
  account.foldl (fun number c => number * 36 + digitValue c) 0

end Iban

namespace Abi

/-- The address of a text that an address argument may have: forty digits with or without mark,
checked if they mix letter cases, or an account number with check digits. -/
def addressNumber (value : Value) : Except ArgumentFault Nat :=
  match value with
  | .text content =>
      let (marked, digits) :=
        match content.toList with
        | '0' :: 'x' :: digits => (true, digits)
        | digits => (false, digits)
      if digits.length = 40 ∧ digits.all Text.isHexDigit then
        if Checksum.accepts digits then .ok (Text.hexNumber digits)
        else
          .error (.invalid "bad address checksum" "address"
            (.text (String.ofList ('0' :: 'x' :: digits))))
      else
        match marked, content.toList with
        | false, 'X' :: 'E' :: tens :: ones :: account =>
            if Text.isDecimalDigit tens ∧ Text.isDecimalDigit ones ∧
                (account.length = 30 ∨ account.length = 31) ∧ account.all Iban.isDigit then
              if Iban.checkDigits account = [tens, ones] then .ok (Iban.accountNumber account)
              else .error (.invalid "bad icap checksum" "address" value)
            else .error (.invalid "invalid address" "address" value)
        | _, _ => .error (.invalid "invalid address" "address" value)
  | value => .error (.invalid "invalid address" "address" value)

/-- Encode an address; the complaint quotes the whole complaint about the text. -/
def addressWord (name : String) (value : Value) : Except ArgumentFault (List Char) :=
  match addressNumber value with
  | .ok number => .ok (word number)
  | .error fault => .error (.invalid fault.message name value)

/-- The values for the components of a tuple: a list of them, or a record by their names, which
must then be present and distinct. -/
def tupleValues (components : List AbiParameter) (value : Value) :
    Except ArgumentFault (List Value) :=
  match value with
  | .list items => .ok items
  | .record _ => pick [] components
  | value => .error (.invalid "invalid tuple value" "tuple" value)
where
  /-- Complain about the name of a component. -/
  refuse (problem : String) (component : AbiParameter) : ArgumentFault :=
    ⟨.invalid, "cannot encode object for signature with " ++ problem ++ " names",
      [("argument", Text.quoted "values"),
        ("info", (Value.record [("coder", component.2.describe component.1)]).report),
        ("value", value.report)]⟩
  /-- Pick the fields of the remaining components. -/
  pick (seen : List String) : List AbiParameter → Except ArgumentFault (List Value)
    | [] => .ok []
    | component :: rest =>
        if component.1 = "" then .error (refuse "missing" component)
        else if seen.contains component.1 then .error (refuse "duplicate" component)
        else do
          let values ← pick (component.1 :: seen) rest
          return value.field component.1 :: values

mutual

/-- Encode a value of a type; the name is that of the argument. -/
def encode (name : String) : AbiType → Value → Except ArgumentFault (List Char)
  | .address, value => addressWord name value
  | .bool, value => .ok (word (if value.isGiven then 1 else 0))
  | .text, value =>
      match value with
      | .text content =>
          let bytes := content.toList.flatMap String.utf8EncodeChar
          .ok (word bytes.length ++ padded (Text.hexOfBytes bytes))
      | value => .error (.invalid "invalid string value" "str" value)
  | .bytes, value => do
      let digits ← dataDigits value
      return word (digits.length / 2) ++ padded digits
  | .fixedBytes size, value => do
      let digits ← dataDigits value
      if digits.length = 2 * size then return padded digits
      else throw (.invalid "incorrect data length" name value)
  | .integer signed size, value => integerWord name signed size value
  | .array element length, value =>
      match value with
      | .list items =>
          let expected := length.getD items.length
          if items.length = expected then do
            let parts ← items.mapM fun item => encode "" element item
            let count := if length.isNone then word items.length else []
            return count ++ arrange (parts.map fun part => (element.isDynamic, part))
          else
            let label := if name = "" then "" else " " ++ name
            .error (.miscounted ("coder array" ++ label) items.length expected)
      | value => .error (.invalid "expected array value" name value)
  | .tuple components, value => do
      let values ← tupleValues components value
      if values.length = components.length then
        return arrange (← encodeAll components values)
      else throw (.invalid "types/value length mismatch" "tuple" value)

/-- Encode values of several types, each with the mark whether it is a tail. -/
def encodeAll : List (String × AbiType) → List Value →
    Except ArgumentFault (List (Bool × List Char))
  | (name, type) :: components, value :: values => do
      let part ← encode name type value
      let parts ← encodeAll components values
      return (type.isDynamic, part) :: parts
  | _, _ => .ok []

end

end Abi

/-- Constructor arguments: the texts of their types and their values. -/
structure Arguments where
  /-- The types. -/
  types : List String
  /-- The values. -/
  values : List Value

namespace Arguments

/-- Read the types of arguments. -/
def readTypes : List String → Except ArgumentFault (List AbiParameter)
  | [] => .ok []
  | text :: rest =>
      match AbiType.ofText? text with
      | none => .error (.invalid "invalid param type" "obj" (.text text))
      | some parameter => do
          let parameters ← readTypes rest
          return parameter :: parameters

/-- The digits of the encoded arguments; without types there are none. -/
def encode (arguments : Arguments) : Except ArgumentFault (List Char) :=
  if arguments.types.isEmpty then .ok []
  else if arguments.values.length ≠ arguments.types.length then
    .error (.miscounted "types/values length mismatch" arguments.values.length
      arguments.types.length)
  else do
    let parameters ← readTypes arguments.types
    let parts ← Abi.encodeAll parameters arguments.values
    return Abi.arrange parts

end Arguments

/-- The digits appended to a creation image. -/
def encodeArguments : Option Arguments → Except ArgumentFault (List Char)
  | none => .ok []
  | some arguments => arguments.encode

end Rollout
