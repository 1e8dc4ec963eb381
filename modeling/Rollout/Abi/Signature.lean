import Rollout.Abi.Basic
import Rollout.Text.Blank
import Rollout.Text.Hex

/-!
# Reading argument types

The text of an argument type: an elementary type, or parameters in parentheses with or without the
word `tuple`, then any number of array brackets, storage words, and a name.  Blanks may stand
before every token but not at the end.
-/

namespace Rollout.AbiType

/-- A token of a type text.  Array brackets form one token with the length that they give. -/
inductive Token where
  /-- An opening parenthesis. -/
  | opening
  /-- A closing parenthesis. -/
  | closing
  /-- A comma. -/
  | comma
  /-- The sign `@`. -/
  | atSign
  /-- Array brackets. -/
  | bracket (length : Option Nat)
  /-- A reserved word. -/
  | keyword (word : String)
  /-- A word that looks like an elementary type. -/
  | typeWord (word : String)
  /-- Any other word. -/
  | name (word : String)
  /-- Decimal digits. -/
  | number (digits : List Char)
  deriving DecidableEq

/-- A character that a word may start with. -/
def isWordStart (c : Char) : Bool :=
  ('a' ≤ c && c ≤ 'z') || ('A' ≤ c && c ≤ 'Z') || c == '$' || c == '_'

/-- A character that a word may go on with. -/
def isWordPart (c : Char) : Bool := isWordStart c || Text.isDecimalDigit c

/-- The words that may follow a type. -/
def storageWords : List String := ["calldata", "memory", "storage", "payable", "indexed"]

/-- All reserved words. -/
def reservedWords : List String :=
  storageWords ++
    ["constructor", "error", "event", "fallback", "function", "receive", "struct", "tuple",
      "returns", "constant", "external", "internal", "private", "public", "pure", "view",
      "override"]

/-- The number in a word made of a stem and digits. -/
def digitsAfter? (stem word : List Char) : Option (List Char) :=
  if stem.isPrefixOf word then
    let rest := word.drop stem.length
    if rest.all Text.isDecimalDigit then some rest else none
  else none

/-- The value of decimal digits. -/
def decimalValue (digits : List Char) : Nat :=
  digits.foldl (fun number c => number * 10 + Text.hexValue c) 0

/-- Whether a word looks like an elementary type. -/
def looksElementary (word : List Char) : Bool :=
  word = "address".toList || word = "bool".toList || word = "string".toList ||
    (digitsAfter? "bytes".toList word).isSome || (digitsAfter? "uint".toList word).isSome ||
    (digitsAfter? "int".toList word).isSome

/-- The integer type of a width in bits; no width means the widest. -/
def integerOfDigits? (signed : Bool) (digits : List Char) : Option AbiType :=
  if digits.isEmpty then some (.integer signed 32)
  else
    let bits := decimalValue digits
    if bits = 0 ∨ 256 < bits ∨ bits % 8 ≠ 0 then none else some (.integer signed (bits / 8))

/-- The elementary type of a word. -/
def ofWord? (word : String) : Option AbiType :=
  let letters := word.toList
  if word = "address" then some .address
  else if word = "bool" then some .bool
  else if word = "string" then some .text
  else
    match digitsAfter? "bytes".toList letters with
    | some digits =>
        if digits.isEmpty then some .bytes
        else
          let size := decimalValue digits
          if size = 0 ∨ 32 < size then none else some (.fixedBytes size)
    | none =>
        match digitsAfter? "uint".toList letters with
        | some digits => integerOfDigits? false digits
        | none => (digitsAfter? "int".toList letters).bind (integerOfDigits? true)

/-- Classify a word. -/
def wordToken (word : List Char) : Token :=
  let spelling := String.ofList word
  if reservedWords.contains spelling then .keyword spelling
  else if looksElementary word then .typeWord spelling
  else .name spelling

/-- Close array brackets: digits before the closing bracket give the length.  The tokens read so
far are listed backward. -/
def closeBracket? : List Token → Option (List Token)
  | .number digits :: .bracket _ :: rest =>
      let length := decimalValue digits
      if length < 9007199254740992 then some (.bracket (some length) :: rest) else none
  | .bracket length :: rest => some (.bracket length :: rest)
  | _ => none

/-- Read the tokens of a text onto the tokens read so far, which are listed backward. -/
def tokens? : Nat → List Token → List Char → Option (List Token)
  | _, read, [] => some read
  | 0, _, _ => none
  | fuel + 1, read, unread =>
      match Text.trimStart unread with
      | [] => none
      | '(' :: rest => tokens? fuel (.opening :: read) rest
      | ')' :: rest => tokens? fuel (.closing :: read) rest
      | ',' :: rest => tokens? fuel (.comma :: read) rest
      | '@' :: rest => tokens? fuel (.atSign :: read) rest
      | '[' :: rest => tokens? fuel (.bracket none :: read) rest
      | ']' :: rest =>
          match closeBracket? read with
          | some read => tokens? fuel read rest
          | none => none
      | c :: rest =>
          if isWordStart c then
            tokens? fuel (wordToken (c :: rest.takeWhile isWordPart) :: read)
              (rest.dropWhile isWordPart)
          else if Text.isDecimalDigit c then
            tokens? fuel (.number (c :: rest.takeWhile Text.isDecimalDigit) :: read)
              (rest.dropWhile Text.isDecimalDigit)
          else none

/-- Add the array brackets that follow a type. -/
def takeBrackets (type : AbiType) : List Token → AbiType × List Token
  | .bracket length :: rest => takeBrackets (.array type length) rest
  | rest => (type, rest)

/-- Pass over storage words, none of them twice; the words of events are refused. -/
def skipStorageWords? (seen : List String) : List Token → Option (List Token)
  | .keyword word :: rest =>
      if storageWords.contains word then
        if seen.contains word || word == "indexed" then none
        else skipStorageWords? (word :: seen) rest
      else some (.keyword word :: rest)
  | rest => some rest

/-- Read what follows the core of a type: brackets, storage words and a name. -/
def finish? (type : AbiType) (tokens : List Token) : Option (AbiParameter × List Token) :=
  let (type, tokens) := takeBrackets type tokens
  (skipStorageWords? [] tokens).map fun tokens =>
    match tokens with
    | .name word :: rest => ((word, type), rest)
    | rest => (("", type), rest)

mutual

/-- Read one parameter. -/
def parameter? : Nat → List Token → Option (AbiParameter × List Token)
  | 0, _ => none
  | fuel + 1, tokens =>
      match tokens with
      | .keyword "tuple" :: .opening :: rest => tupleOf? fuel rest
      | .opening :: rest => tupleOf? fuel rest
      | .typeWord word :: rest => (ofWord? word).bind fun type => finish? type rest
      | _ => none

/-- Read a tuple behind its opening parenthesis. -/
def tupleOf? : Nat → List Token → Option (AbiParameter × List Token)
  | 0, _ => none
  | fuel + 1, tokens =>
      match tokens with
      | .closing :: rest => finish? (.tuple []) rest
      | tokens =>
          match components? fuel tokens with
          | some (components, rest) => finish? (.tuple components) rest
          | none => none

/-- Read the components of a tuple up to its closing parenthesis; a comma may stand before it. -/
def components? : Nat → List Token → Option (List AbiParameter × List Token)
  | 0, _ => none
  | fuel + 1, tokens =>
      match parameter? fuel tokens with
      | some (component, .closing :: rest) => some ([component], rest)
      | some (component, .comma :: .closing :: rest) => some ([component], rest)
      | some (component, .comma :: rest) =>
          match components? fuel rest with
          | some (components, rest) => some (component :: components, rest)
          | none => none
      | _ => none

end

/-- Read the text of a parameter. -/
def ofText? (source : String) : Option AbiParameter :=
  match tokens? (source.length + 1) [] source.toList with
  | none => none
  | some reversed =>
      match parameter? (3 * reversed.length + 3) reversed.reverse with
      | some (parameter, []) => some parameter
      | _ => none

end Rollout.AbiType
