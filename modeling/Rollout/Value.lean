import Rollout.Number.Shortest

/-!
# Dynamic values

Configuration, embedded templates and call results arrive as values of unknown shape.  A value
knows its kind, whether it counts as present, and the text it is shown with, if it can be shown.
-/

namespace Rollout

/-- A value of unknown shape.  A record keeps its fields in order, each name once. -/
inductive Value where
  /-- No value at all. -/
  | missing
  /-- The explicit empty value. -/
  | null
  /-- A truth value. -/
  | bool (flag : Bool)
  /-- A binary64 number. -/
  | number (number : Number)
  /-- An integer of any size. -/
  | integer (value : Int)
  /-- A text. -/
  | text (content : String)
  /-- A list of values. -/
  | list (items : List Value)
  /-- Named fields. -/
  | record (fields : List (String × Value))
  deriving Inhabited

namespace Value

/-- The kind named in messages about a value that should have been a text. -/
def kind : Value → String
  | missing => "undefined"
  | null | list _ | record _ => "object"
  | bool _ => "boolean"
  | number _ => "number"
  | integer _ => "bigint"
  | text _ => "string"

/-- Whether a value counts as given: neither absent, false, zero nor the empty text. -/
def isGiven : Value → Bool
  | missing | null => false
  | bool flag => flag
  | number value => !value.isZero
  | integer value => value != 0
  | text content => content != ""
  | list _ | record _ => true

/-- Whether nothing can be looked up in a value because there is none. -/
def isAbsent : Value → Bool
  | missing | null => true
  | _ => false

mutual

/-- The text a value is shown with.  A record cannot be shown if it has a field under the name of
the operation that gives its text, and neither can a list with such an item. -/
def display? : Value → Option String
  | missing => some "undefined"
  | null => some "null"
  | bool flag => some (if flag then "true" else "false")
  | number value => some value.text
  | integer value => some (toString value)
  | text content => some content
  | list items => (displayItems? items).map (String.intercalate ",")
  | record fields =>
      if fields.any fun entry => entry.1 == "toString" then none else some "[object Object]"

/-- The texts of list items; an absent item leaves its place empty. -/
def displayItems? : List Value → Option (List String)
  | [] => some []
  | missing :: rest => (displayItems? rest).map ("" :: ·)
  | null :: rest => (displayItems? rest).map ("" :: ·)
  | item :: rest => do
      let shown ← display? item
      let others ← displayItems? rest
      return shown :: others

end

/-- The text of a value that can be shown. -/
def display (value : Value) : String := value.display?.getD ""

/-- The complaint about a value that cannot be shown. -/
def unshowableMessage : String := "Cannot convert object to primitive value"

/-- The field of a record, if the value is a record that has it. -/
def field? (value : Value) (name : String) : Option Value :=
  match value with
  | record fields => (fields.find? fun entry => entry.1 == name).map Prod.snd
  | _ => none

/-- The field of a record; anything else has no fields. -/
def field (value : Value) (name : String) : Value := (value.field? name).getD missing

/-- The fields of a record, if the value is one. -/
def fields? : Value → Option (List (String × Value))
  | record fields => some fields
  | _ => none

/-- The text, if the value is one. -/
def text? : Value → Option String
  | text content => some content
  | _ => none

/-- The list, if the value is one. -/
def list? : Value → Option (List Value)
  | list items => some items
  | _ => none

theorem fields?_eq_some {value : Value} {fields : List (String × Value)} :
    value.fields? = some fields ↔ value = record fields := by
  cases value <;> simp [fields?]

theorem list?_eq_some {value : Value} {items : List Value} :
    value.list? = some items ↔ value = list items := by
  cases value <;> simp [list?]

/-- A field name that is the plain decimal of an index below 2^32 - 1. -/
def fieldIndex? (name : String) : Option Nat :=
  let digits := name.toList
  if digits.isEmpty || !digits.all Char.isDigit then none
  else
    let index := digits.foldl (fun number c => number * 10 + (c.toNat - '0'.toNat)) 0
    if Nat.toDigits 10 index = digits ∧ index < 4294967295 then some index else none

/-- Set a field: a known name keeps its place, a new one comes last. -/
def setField (name : String) (value : Value) :
    List (String × Value) → List (String × Value)
  | [] => [(name, value)]
  | entry :: rest =>
      if entry.1 = name then (name, value) :: rest else entry :: setField name value rest

/-- Whether one field is listed before another: indices first, in ascending order. -/
def listedBefore (left right : String × Value) : Bool :=
  match fieldIndex? left.1, fieldIndex? right.1 with
  | some i, some j => i ≤ j
  | some _, none => true
  | none, some _ => false
  | none, none => true

/-- The record of the given fields, set one after the other. -/
def ofFields (fields : List (String × Value)) : Value :=
  let fields := fields.foldl (fun fields entry => setField entry.1 entry.2 fields) []
  record (fields.mergeSort listedBefore)

end Value

end Rollout
