import Rollout.Number.Basic
import Rollout.Text.Hex

/-!
# Creation images

An artifact is a creation image in which libraries may still be missing.  Each missing library
stands in the text as a placeholder of forty characters, and a reference table may list where.
A resolved image has no library left to fill in.
-/

namespace Rollout

/-- A place of a library address in an image, in bytes. -/
structure Reference where
  /-- The first byte. -/
  start : Number
  /-- The number of bytes. -/
  length : Number
  deriving DecidableEq, Inhabited

/-- The references of each library of a source file. -/
abbrev LibraryReferences := List (String × List Reference)

/-- The references of each source file. -/
abbrev References := List (String × LibraryReferences)

/-- What the tables of an artifact inherit from, apart from what every table does.  A table that is
assigned something under the name of its parent gets that for a parent, and no entry. -/
structure Parents where
  /-- The parent of the table of files, which is a table of libraries and may have a parent, too. -/
  table : Option (LibraryReferences × Option (List Reference)) := none
  /-- The parents of the tables of libraries, by file. -/
  files : List (String × List Reference) := []
  deriving DecidableEq, Inhabited

/-- A creation image that may lack libraries. -/
structure Artifact where
  /-- The contract that the image creates. -/
  contractName : String
  /-- The text of the image, `0x` in front. -/
  object : String
  /-- Where the missing libraries go. -/
  references : References
  /-- What the tables inherit from. -/
  parents : Parents := {}
  deriving DecidableEq, Inhabited

/-- A creation image to which nothing is left to fill in. -/
structure CreationImage where
  /-- The contract that the image creates. -/
  contractName : String
  /-- The text of the image, `0x` in front. -/
  bytecode : String
  deriving DecidableEq, Inhabited

namespace Artifact

/-- The number of characters of a placeholder, which is that of the digits of an address. -/
def placeholderLength : Nat := 40

/-- Whether a placeholder may have a character at an index: `__$`, thirty-four hexadecimal
digits, `$__`. -/
def placeholderAllows (index : Nat) (c : Char) : Bool :=
  if index = 2 ∨ index = 37 then c == '$'
  else if 3 ≤ index ∧ index ≤ 36 then Text.isHexDigit c
  else c == '_'

/-! ## Tables -/

/-- The name of the parent of a table. -/
def parentName : String := "__proto__"

section Tables

variable {α : Type}

/-- What a table has under a name. -/
def lookup? (entries : List (String × α)) (name : String) : Option α :=
  (entries.find? fun entry => entry.1 == name).map Prod.snd

/-- What is entered when a table is built by assignments: all but what is assigned under the name of
the parent. -/
def assigned (entries : List (String × α)) : List (String × α) :=
  entries.filter fun entry => entry.1 != parentName

end Tables

/-- The references that a table records for a library, if it lists the library. -/
def recorded? (references : References) (file library : String) : Option (List Reference) :=
  references.findSome? fun entry => if entry.1 = file then lookup? entry.2 library else none

/-- The references recorded for a library. -/
def referencesTo (references : References) (file library : String) : List Reference :=
  (recorded? references file library).getD []

end Artifact

end Rollout
