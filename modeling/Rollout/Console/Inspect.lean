import Rollout.Value

/-!
# Inspected values

A console shows a list or a record by its parts.  A text among them stands in quotation marks, and
what lies deeper than three levels is only named.  All parts stand on one line here; the runtime
breaks a long one, which is why a printer can be given another way of inspecting.
-/

namespace Rollout.Console

/-- How a character stands between quotation marks. -/
def escaped (mark c : Char) : List Char :=
  if c = mark ∨ c = '\\' then ['\\', c]
  else
    match c with
    | '\n' => ['\\', 'n']
    | '\t' => ['\\', 't']
    | '\r' => ['\\', 'r']
    | c =>
        if c.toNat = 8 then ['\\', 'b']
        else if c.toNat = 12 then ['\\', 'f']
        else if c.toNat < 32 ∨ 127 ≤ c.toNat ∧ c.toNat < 160 then
          '\\' :: 'x' :: [Char.toUpper (Nat.digitChar (c.toNat / 16)),
            Char.toUpper (Nat.digitChar (c.toNat % 16))]
        else [c]

/-- Whether a text has a dollar sign before an opening brace. -/
def hasInterpolation : List Char → Bool
  | '$' :: '\x7b' :: _ => true
  | _ :: rest => hasInterpolation rest
  | [] => false

/-- The quotation mark of a text: the first of three that it does not contain. -/
def quotationMark (text : List Char) : Char :=
  if !text.contains '\x27' then '\x27'
  else if !text.contains '\x22' then '\x22'
  else if !text.contains '\x60' && !hasInterpolation text then '\x60'
  else '\x27'

/-- A text in quotation marks. -/
def quoted (text : String) : String :=
  let mark := quotationMark text.toList
  String.ofList (mark :: text.toList.flatMap (escaped mark) ++ [mark])

/-- Whether a field name needs no quotation marks. -/
def isPlainName (name : List Char) : Bool :=
  match name with
  | [] => false
  | first :: _ => !first.isDigit && name.all fun c => c.isAlphanum || c == '_'

/-- A field name as it is shown. -/
def shownName (name : String) : String :=
  if name = "__proto__" then "['__proto__']"
  else if isPlainName name.toList then name
  else quoted name

mutual

/-- A value as it is shown among others, of which so many levels are shown. -/
def inspectWithin (levels : Nat) : Value → String
  | .missing => "undefined"
  | .null => "null"
  | .bool flag => if flag then "true" else "false"
  | .number .negativeZero => "-0"
  | .number value => value.text
  | .integer value => toString value ++ "n"
  | .text content => quoted content
  | .list [] => "[]"
  | .list items =>
      if levels = 0 then "[Array]"
      else "[ " ++ String.intercalate ", " (inspectItems (levels - 1) items) ++ " ]"
  | .record [] => "\x7b\x7d"
  | .record fields =>
      if levels = 0 then "[Object]"
      else "\x7b " ++ String.intercalate ", " (inspectFields (levels - 1) fields) ++ " \x7d"

/-- The items of a list as they are shown. -/
def inspectItems (levels : Nat) : List Value → List String
  | [] => []
  | item :: rest => inspectWithin levels item :: inspectItems levels rest

/-- The fields of a record as they are shown. -/
def inspectFields (levels : Nat) : List (String × Value) → List String
  | [] => []
  | (name, value) :: rest =>
      (shownName name ++ ": " ++ inspectWithin levels value) :: inspectFields levels rest

end

/-- A value as a console shows it. -/
def inspect (value : Value) : String := inspectWithin 3 value

end Rollout.Console
