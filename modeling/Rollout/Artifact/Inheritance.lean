import Rollout.Failure

/-!
# Inherited properties

The references to a library are looked up by its file and then by its own name, and a look-up that
finds no entry goes on to what a table inherits from.  Every table inherits the operations that the
runtime gives to all of its values, so that a name such as `toString` leads somewhere in any table.
What is found is gone through as a list of references, which only a list or a text allows.
-/

namespace Rollout.Artifact

/-- A kind of values that the runtime equips with operations. -/
inductive Kind where
  /-- Records, tables among them. -/
  | record
  /-- Lists. -/
  | list
  /-- Functions. -/
  | function
  /-- Numbers. -/
  | number
  deriving DecidableEq

namespace Kind

/-- The name of the function that makes values of a kind. -/
def makerName : Kind → String
  | record => "Object"
  | list => "Array"
  | function => "Function"
  | number => "Number"

/-- The operations that values of a kind inherit, with the number of their arguments. -/
def operations : Kind → List (String × Nat)
  | record =>
      [("__defineGetter__", 2), ("__defineSetter__", 2), ("hasOwnProperty", 1),
        ("__lookupGetter__", 1), ("__lookupSetter__", 1), ("isPrototypeOf", 1),
        ("propertyIsEnumerable", 1), ("toString", 0), ("valueOf", 0), ("toLocaleString", 0)]
  | list =>
      [("at", 1), ("concat", 1), ("copyWithin", 2), ("fill", 1), ("find", 1), ("findIndex", 1),
        ("findLast", 1), ("findLastIndex", 1), ("lastIndexOf", 1), ("pop", 0), ("push", 1),
        ("reverse", 0), ("shift", 0), ("unshift", 1), ("slice", 2), ("sort", 1), ("splice", 2),
        ("includes", 1), ("indexOf", 1), ("join", 1), ("keys", 0), ("entries", 0), ("values", 0),
        ("forEach", 1), ("filter", 1), ("flat", 0), ("flatMap", 1), ("map", 1), ("every", 1),
        ("some", 1), ("reduce", 1), ("reduceRight", 1), ("toReversed", 0), ("toSorted", 1),
        ("toSpliced", 2), ("with", 2), ("toLocaleString", 0), ("toString", 0)]
  | function => [("apply", 2), ("bind", 1), ("call", 1), ("toString", 0)]
  | number =>
      [("toExponential", 1), ("toFixed", 1), ("toPrecision", 1), ("toString", 1), ("valueOf", 0),
        ("toLocaleString", 0)]

/-- The operations of the functions that make values of a kind; those that make functions and
numbers are not reached by two look-ups. -/
def makerOperations : Kind → List (String × Nat)
  | record =>
      [("assign", 2), ("getOwnPropertyDescriptor", 2), ("getOwnPropertyDescriptors", 1),
        ("getOwnPropertyNames", 1), ("getOwnPropertySymbols", 1), ("hasOwn", 2), ("is", 2),
        ("preventExtensions", 1), ("seal", 1), ("create", 2), ("defineProperties", 2),
        ("defineProperty", 3), ("freeze", 1), ("getPrototypeOf", 1), ("setPrototypeOf", 2),
        ("isExtensible", 1), ("isFrozen", 1), ("isSealed", 1), ("keys", 1), ("entries", 1),
        ("fromEntries", 1), ("values", 1), ("groupBy", 2)]
  | list => [("isArray", 1), ("from", 1), ("of", 0), ("fromAsync", 1)]
  | function | number => []

end Kind

/-- What a look-up comes upon. -/
inductive Found where
  /-- Nothing. -/
  | nothing
  /-- A list of references. -/
  | references (listed : List Reference)
  /-- A reference. -/
  | reference (place : Reference)
  /-- A table of libraries, with its parent. -/
  | libraries (entries : LibraryReferences) (parent : Option (List Reference))
  /-- A number. -/
  | number (value : Number)
  /-- A text. -/
  | text (content : String)
  /-- A function under its name, with the number of its arguments. -/
  | operation (name : String) (arity : Nat)
  /-- The function that makes values of a kind. -/
  | maker (kind : Kind)
  /-- What all values of a kind inherit from. -/
  | common (kind : Kind)
  /-- Something that must not be looked at. -/
  | barred
  deriving DecidableEq

namespace Found

/-- What a value has under a name without inheriting it. -/
def own? (found : Found) (name : String) : Option Found :=
  match found with
  | libraries entries _ => (lookup? entries name).map references
  | references listed =>
      if name = "length" then some (number (.int listed.length))
      else (Value.fieldIndex? name).bind fun index => listed[index]?.map reference
  | reference place =>
      if name = "start" then some (number place.start)
      else if name = "length" then some (number place.length)
      else none
  | operation own arity =>
      if name = "length" then some (number (.int arity))
      else if name = "name" then some (text own)
      else none
  | maker kind =>
      if name = "length" then some (number (.int 1))
      else if name = "name" then some (text kind.makerName)
      else if name = "prototype" then some (common kind)
      else (lookup? kind.makerOperations name).map (operation name)
  | common kind =>
      if name = "constructor" then some (maker kind)
      else if (kind = .list ∨ kind = .function) ∧ name = "length" then some (number (.int 0))
      else if kind = .function ∧ name = "name" then some (text "")
      else if kind = .function ∧ (name = "arguments" ∨ name = "caller") then some barred
      else (lookup? kind.operations name).map (operation name)
  | nothing | number _ | text _ | barred => none

/-- What a value inherits from. -/
def parent : Found → Found
  | libraries _ (some listed) => references listed
  | libraries _ none | reference _ => common .record
  | references _ => common .list
  | operation .. | maker _ => common .function
  | number _ => common .number
  | common .record => nothing
  | common _ => common .record
  | nothing | text _ | barred => nothing

/-- A value and all that it inherits from, which is never more than four. -/
def line (found : Found) : List Found :=
  [found, found.parent, found.parent.parent, found.parent.parent.parent]

/-- What is found under a name by a value that inherits from another one.  All inherit a way to look
at their parents. -/
def inherited (parent : Found) (name : String) : Found :=
  match parent.line.findSome? fun ancestor => ancestor.own? name with
  | some found => found
  | none => if name = parentName then parent else nothing

/-- What is found under a name; where there is nothing, nothing is found. -/
def property (found : Found) (name : String) : Found :=
  (found.own? name).getD (inherited found.parent name)

/-- What the runtime says of a value through which it cannot go. -/
def notIterable (kind : String) : LinkFault :=
  .mistyped (kind ++ " is not iterable (cannot read property Symbol(Symbol.iterator))")

/-- The references of what is found.  The characters of a text are no references, but they have a
length. -/
def items : Found → Except LinkFault (List Reference)
  | nothing | common .list => .ok []
  | references listed => .ok listed
  | text content => if content = "" then .ok [] else .error (.problem .unplaced)
  | number value => .error (notIterable ("number " ++ value.text))
  | operation .. | maker _ | common .function => .error (notIterable "function")
  | reference _ | libraries .. | common .record | common .number => .error (notIterable "object")
  | barred =>
      .error (.mistyped ("'caller', 'callee', and 'arguments' properties may not be accessed on " ++
        "strict mode functions or the arguments objects for calls to them"))

end Found

/-- What all files of an artifact inherit from. -/
def tableParent (artifact : Artifact) : Found :=
  match artifact.parents.table with
  | some (libraries, parent) => .libraries libraries parent
  | none => .common .record

/-- What is found under the name of a file. -/
def foundFile (artifact : Artifact) (file : String) : Found :=
  match lookup? artifact.references file with
  | some libraries => .libraries libraries (lookup? artifact.parents.files file)
  | none => .inherited artifact.tableParent file

/-- What is found under the name of a file and that of a library: what the table records, or what
else the file leads to. -/
def found (artifact : Artifact) (file library : String) : Found :=
  match recorded? artifact.references file library with
  | some listed => .references listed
  | none => (artifact.foundFile file).property library

/-- The references that are gone through to link a library. -/
def referencesFound (artifact : Artifact) (file library : String) :
    Except LinkFault (List Reference) :=
  (artifact.found file library).items

end Rollout.Artifact
