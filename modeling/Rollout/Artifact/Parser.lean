import Rollout.Failure

/-!
# Reading templates

A template is the text of an image, or a record of the text and a reference table.  The text is
`0x` and an even number of characters that split into hexadecimal digits and placeholders; a
reference starts at a whole byte, has at least one byte and ends within the image.  Nothing else
is accepted.  The text of an accepted template is not changed, and the table is built anew by
assignments: what stands under the name of a parent becomes one and is no entry.
-/

namespace Rollout.Artifact

/-- Whether the rest of a text splits into digits and placeholders when `index` characters of a
placeholder have been read. -/
def splitsFrom (index : Nat) : List Char → Bool
  | [] => index == 0
  | c :: rest =>
      if index = 0 then
        if Text.isHexDigit c then splitsFrom 0 rest
        else placeholderAllows 0 c && splitsFrom 1 rest
      else placeholderAllows index c && splitsFrom ((index + 1) % placeholderLength) rest

/-- Whether a text splits into hexadecimal digits and placeholders. -/
def isUnlinkedHex (body : List Char) : Bool := splitsFrom 0 body

/-- The number that a field holds, if it is an integer. -/
def integerField? (value : Value) (name : String) : Option Number :=
  match value.field name with
  | .number number => if number.isInteger then some number else none
  | _ => none

/-- Read one reference to a library of an image of `byteLength` bytes. -/
def parseReference (byteLength : Nat) (library : String) (value : Value) :
    Except ArtifactProblem Reference :=
  match integerField? value "start", integerField? value "length" with
  | some start, some length =>
      if start.isBelow 0 || !length.exceeds 0 then .error (.badReference library)
      else if (start.addInt (length.toInt?.getD 0)).exceeds byteLength then
        .error (.outside library start)
      else .ok ⟨start, length⟩
  | _, _ => .error (.badReference library)

/-- Read the references to a library. -/
def parseReferenceList (byteLength : Nat) (library : String) :
    List Value → Except ArtifactProblem (List Reference)
  | [] => .ok []
  | value :: rest => do
      let reference ← parseReference byteLength library value
      let references ← parseReferenceList byteLength library rest
      return reference :: references

/-- The name of a library together with its file. -/
def qualifiedName (file library : String) : String := file ++ ":" ++ library

/-- Read the references of a file. -/
def parseLibraries (byteLength : Nat) (file : String) :
    List (String × Value) → Except ArtifactProblem LibraryReferences
  | [] => .ok []
  | (library, value) :: rest => do
      match value.list? with
      | none => .error (.badList (qualifiedName file library))
      | some items =>
          let references ← parseReferenceList byteLength (qualifiedName file library) items
          let libraries ← parseLibraries byteLength file rest
          return (library, references) :: libraries

/-- Read the references of all files. -/
def parseFiles (byteLength : Nat) :
    List (String × Value) → Except ArtifactProblem References
  | [] => .ok []
  | (file, value) :: rest => do
      match value.fields? with
      | none => .error (.badFile file)
      | some entries =>
          let libraries ← parseLibraries byteLength file entries
          let files ← parseFiles byteLength rest
          return (file, libraries) :: files

/-- Read a reference table; a template without one has no references. -/
def parseReferences (byteLength : Nat) : Value → Except ArtifactProblem References
  | .missing => .ok []
  | .record fields => parseFiles byteLength fields
  | _ => .error .badTable

/-- The parents of tables that are built by the assignments of a listing. -/
def parentsOf (listing : References) : Parents :=
  { table := (lookup? listing parentName).map fun libraries =>
      (assigned libraries, lookup? libraries parentName)
    files := (assigned listing).filterMap fun entry =>
      (lookup? entry.2 parentName).map fun references => (entry.1, references) }

/-- The entries of tables that are built by the assignments of a listing. -/
def entriesOf (listing : References) : References :=
  (assigned listing).map fun entry => (entry.1, assigned entry.2)

/-- The artifact with a text and a listing of references. -/
def ofListing (contractName object : String) (listing : References) : Artifact :=
  { contractName, object, references := entriesOf listing, parents := parentsOf listing }

/-- The text of a template. -/
def templateObject? : Value → Option String
  | .text content => some content
  | value => (value.field "object").text?

/-- Read a template. -/
def parseTemplate (template : Value) (contractName : String) :
    Except ArtifactProblem Artifact :=
  match templateObject? template with
  | none => .error .missingObject
  | some object =>
      match object.toList with
      | '0' :: 'x' :: body =>
          if !isUnlinkedHex body then .error .strayCharacters
          else if body.length % 2 ≠ 0 then .error .oddDigits
          else do
            let listing ← parseReferences (body.length / 2) (template.field "linkReferences")
            return ofListing contractName object listing
      | _ => .error .unmarked

/-- Read a template; the failure names the contract. -/
def parse (template : Value) (contractName : String) : Except Failure Artifact :=
  (parseTemplate template contractName).mapError (.artifact contractName)

end Rollout.Artifact
