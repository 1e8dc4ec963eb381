/-!
# Argument types

The types of constructor arguments, as far as their encoding needs them.
-/

namespace Rollout

/-- The type of an argument. -/
inductive AbiType where
  /-- An account address. -/
  | address
  /-- A truth value. -/
  | bool
  /-- A text. -/
  | text
  /-- Bytes of any number. -/
  | bytes
  /-- A fixed number of bytes. -/
  | fixedBytes (size : Nat)
  /-- An integer of `size` bytes. -/
  | integer (signed : Bool) (size : Nat)
  /-- A list of values of one type, of a fixed length or of any length. -/
  | array (element : AbiType) (length : Option Nat)
  /-- Values of several types, each with a name, which may be empty. -/
  | tuple (components : List (String × AbiType))
  deriving Inhabited

/-- An argument type with the name of the argument, which may be empty. -/
abbrev AbiParameter := String × AbiType

namespace AbiType

mutual

/-- Whether encodings of the type differ in length. -/
def isDynamic : AbiType → Bool
  | address | bool | fixedBytes _ | integer .. => false
  | text | bytes => true
  | array element length => length.isNone || isDynamic element
  | tuple components => hasDynamic components

/-- Whether encodings of a component differ in length. -/
def hasDynamic : List (String × AbiType) → Bool
  | [] => false
  | (_, type) :: rest => isDynamic type || hasDynamic rest

end

mutual

/-- The canonical name of a type. -/
def canonicalName : AbiType → String
  | address => "address"
  | bool => "bool"
  | text => "string"
  | bytes => "bytes"
  | fixedBytes size => "bytes" ++ toString size
  | integer signed size => (if signed then "int" else "uint") ++ toString (size * 8)
  | array element length =>
      canonicalName element ++ "[" ++ (length.elim "" toString) ++ "]"
  | tuple components => "tuple(" ++ String.intercalate "," (canonicalNames components) ++ ")"

/-- The canonical names of components. -/
def canonicalNames : List (String × AbiType) → List String
  | [] => []
  | (_, type) :: rest => canonicalName type :: canonicalNames rest

end

end AbiType

end Rollout
