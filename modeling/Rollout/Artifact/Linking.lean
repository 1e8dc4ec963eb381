import Rollout.Artifact.Inheritance
import Rollout.Artifact.Parser
import Rollout.Text.Replace

/-!
# Linking libraries

A library is named by its file and its own name.  Linking writes the address of the library over
every reference that is found for it, replaces its placeholder wherever that still stands in the
text, and forgets its references.  An image is complete when no reference and no placeholder is left
and its text is hexadecimal data.
-/

namespace Rollout.Artifact

/-- What stands in an image for a missing library: the first digits of the hash of its name
between dollar signs and underscores. -/
def placeholder (qualifiedName : List Char) : List Char :=
  let digits := (Text.hexOfBytes (Hash.keccak256Text qualifiedName)).take 34
  '_' :: '_' :: '$' :: (digits ++ ['$', '_', '_'])

/-- Split a name at its last colon into file and library, neither of them empty. -/
def splitQualifiedName? (name : List Char) : Option (List Char × List Char) :=
  let reversed := name.reverse
  let library := (reversed.takeWhile (· ≠ ':')).reverse
  match reversed.dropWhile (· ≠ ':') with
  | [] => none
  | _ :: file => if file.isEmpty || library.isEmpty then none else some (file.reverse, library)

/-- The table without a library and without the files that then have none. -/
def without (references : References) (file library : String) : References :=
  (references.map fun entry =>
      (entry.1, entry.2.filter fun named => entry.1 != file || named.1 != library)).filter
    fun entry => !entry.2.isEmpty

/-- The table from which a library has been taken, built anew by assignments. -/
def forget (references : References) (file library : String) : References :=
  assigned (without references file library)

/-- The parents of that table. -/
def parentsWithout (references : References) (file library : String) : Parents :=
  { table := (lookup? (without references file library) parentName).map fun libraries =>
      (libraries, none) }

/-- The unit position in a text that a number names. -/
def positionIn (body : List Char) (place : Number) : Nat :=
  match place.truncate? with
  | some index => Text.unitPosition body index
  | none => if place.exceeds 0 then Text.unitLength body else 0

/-- Write forty digits over a reference. -/
def patch (digits body : List Char) (reference : Reference) : Except LinkProblem (List Char) :=
  if reference.length ≠ .int 20 then .error (.badLength reference.start reference.length)
  else
    let first := reference.start.double
    let last := first.addInt placeholderLength
    if last.exceeds (Text.unitLength body) then .error (.outside reference.start)
    else
      .ok (Text.takeUnits (positionIn body first) body ++ digits ++
        Text.dropUnits (positionIn body last) body)

/-- Write forty digits over each of several references in turn. -/
def patchAll (digits : List Char) : List Reference → List Char → Except LinkProblem (List Char)
  | [], body => .ok body
  | reference :: rest, body => do
      let body ← patch digits body reference
      patchAll digits rest body

/-- The artifact with another body, from whose table a library has been taken. -/
def relinked (artifact : Artifact) (file library : String) (body : List Char) : Artifact :=
  { contractName := artifact.contractName
    object := String.ofList ('0' :: 'x' :: body)
    references := forget artifact.references file library
    parents := parentsWithout artifact.references file library }

/-- Link the library of a qualified name at an address. -/
def linkLibrary (artifact : Artifact) (name : String) (address : String) :
    Except LinkFault Artifact :=
  match splitQualifiedName? name.toList with
  | none => .error (.problem .unqualified)
  | some (file, library) =>
      match Address.ofText address with
      | .error _ => .error (.problem (.badAddress address))
      | .ok target => do
          let file := String.ofList file
          let library := String.ofList library
          let references ← artifact.referencesFound file library
          let body ←
            (patchAll target.lowerDigits references
              (Text.dropUnits 2 artifact.object.toList)).mapError .problem
          let body := Text.replaceAll (placeholder name.toList) target.lowerDigits body
          return artifact.relinked file library body

/-- Link the library of a qualified name at an address; the failure names contract and
library. -/
def applyLink (artifact : Artifact) (name : String) (address : String) :
    Except Failure Artifact :=
  (artifact.linkLibrary name address).mapError (LinkFault.failure artifact.contractName name)

/-- Whether a text contains two underscores in a row. -/
def hasUnderscores : List Char → Bool
  | '_' :: '_' :: _ => true
  | _ :: rest => hasUnderscores rest
  | [] => false

/-- Whether a reference or the beginning of a placeholder is left. -/
def isUnlinked (artifact : Artifact) : Bool :=
  !artifact.references.isEmpty || hasUnderscores artifact.object.toList

/-- Whether a text has the form of a placeholder. -/
def isPlaceholder (text : List Char) : Bool :=
  text.length == placeholderLength &&
    (List.zipWith placeholderAllows (List.range placeholderLength) text).all id

/-- The leftmost placeholder of a text. -/
def firstPlaceholder? : List Char → Option (List Char)
  | [] => none
  | c :: rest =>
      let candidate := (c :: rest).take placeholderLength
      if isPlaceholder candidate then some candidate else firstPlaceholder? rest

/-- The first library of a reference table. -/
def firstReference? : References → Option String
  | [] => none
  | (_, []) :: rest => firstReference? rest
  | (file, (library, _) :: _) :: _ => some (qualifiedName file library)

/-- The complete image; a missing library is reported first, then what is not hexadecimal. -/
def resolve (artifact : Artifact) : Except Failure CreationImage :=
  match firstReference? artifact.references with
  | some library => .error (.linking artifact.contractName library .unresolved)
  | none =>
      match firstPlaceholder? artifact.object.toList with
      | some found =>
          .error (.linking artifact.contractName (String.ofList found) .unresolved)
      | none =>
          match HexData.ofText artifact.object with
          | .ok bytecode => .ok { contractName := artifact.contractName, bytecode }
          | .error fault =>
              .error (.artifact artifact.contractName (.notHex artifact.contractName fault))

end Rollout.Artifact
