import Rollout.Failure
import Rollout.Abi.Basic

/-!
# Reporting rejected arguments

How the values of rejected arguments are written: texts quoted, lists in brackets and records in
braces with their names sorted.
-/

namespace Rollout

/-- Four hexadecimal digits. -/
def Text.unicodeEscape (code : Nat) : List Char := '\\' :: 'u' :: Text.hexOfWidth 4 code

/-- A character within a quoted text. -/
def Text.quotedCharacter (c : Char) : List Char :=
  if c = '"' then ['\\', '"']
  else if c = '\\' then ['\\', '\\']
  else if c = '\n' then ['\\', 'n']
  else if c = '\r' then ['\\', 'r']
  else if c = '\t' then ['\\', 't']
  else if c.toNat = 8 then ['\\', 'b']
  else if c.toNat = 12 then ['\\', 'f']
  else if c.toNat < 0x20 then Text.unicodeEscape c.toNat
  else [c]

/-- A text in double quotes. -/
def Text.quoted (text : String) : String :=
  String.ofList ('"' :: (text.toList.flatMap Text.quotedCharacter ++ ['"']))

namespace Value

mutual

/-- A value as reports write it. -/
def report : Value → String
  | missing | null => "null"
  | bool flag => if flag then "true" else "false"
  | number value => value.text
  | integer value => toString value
  | text content => Text.quoted content
  | list items => "[ " ++ String.intercalate ", " (reportItems items) ++ " ]"
  | record fields =>
      let parts := (reportFields fields).mergeSort fun left right => !(right.1 < left.1)
      "\x7b " ++ String.intercalate ", " (parts.map Prod.snd) ++ " \x7d"

/-- The reports of list items. -/
def reportItems : List Value → List String
  | [] => []
  | item :: rest => report item :: reportItems rest

/-- The reports of fields, each with its name. -/
def reportFields : List (String × Value) → List (String × String)
  | [] => []
  | (name, value) :: rest =>
      (name, Text.quoted name ++ ": " ++ report value) :: reportFields rest

end

end Value

namespace ArgumentFault

/-- A rejected value of a named argument. -/
def invalid (summary name : String) (value : Value) : ArgumentFault :=
  ⟨.invalid, summary, [("argument", Text.quoted name), ("value", value.report)]⟩

/-- A wrong number of values. -/
def miscounted (what : String) (count expected : Nat) : ArgumentFault :=
  let details := [("count", toString count), ("expectedCount", toString expected)]
  if count < expected then ⟨.missing, "missing argument: " ++ what, details⟩
  else ⟨.unexpected, "too many arguments: " ++ what, details⟩

end ArgumentFault

namespace AbiType

mutual

/-- A type as reports write it, under the name of its argument. -/
def describe (name : String) : AbiType → Value
  | address => describeLeaf name "address" false []
  | bool => describeLeaf name "bool" false []
  | text => describeLeaf name "string" true []
  | bytes => describeLeaf name "bytes" true []
  | fixedBytes size =>
      describeLeaf name ("bytes" ++ toString size) false [("size", .integer size)]
  | integer signed size =>
      describeLeaf name ((if signed then "int" else "uint") ++ toString (size * 8)) false
        [("signed", .bool signed), ("size", .integer size)]
  | array element length =>
      .record
        [("coder", describe "" element), ("dynamic", .bool (array element length).isDynamic),
          ("length", .integer (length.elim (-1) Int.ofNat)), ("localName", .text name),
          ("name", .text "array"), ("type", .text (array element length).canonicalName)]
  | tuple components =>
      .record
        [("coders", .list (describeAll components)),
          ("dynamic", .bool (tuple components).isDynamic), ("localName", .text name),
          ("name", .text "tuple"), ("type", .text (tuple components).canonicalName)]

/-- Components as reports write them. -/
def describeAll : List (String × AbiType) → List Value
  | [] => []
  | (name, type) :: rest => describe name type :: describeAll rest

/-- A type without parts as reports write it. -/
def describeLeaf (name type : String) (dynamic : Bool) (extra : List (String × Value)) : Value :=
  .record
    ([("dynamic", .bool dynamic), ("localName", .text name), ("name", .text type),
      ("type", .text type)] ++ extra)

end

end AbiType

end Rollout
