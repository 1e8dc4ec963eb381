import Rollout.AddressBook
import Rollout.Artifact.Basic
import Rollout.HexData

/-!
# Failures

What can go wrong, as causes; the wording of each cause stands here and nowhere else.  The
failures of linking, deploying and loading an image form the deployer's own family: they pass
through enclosing deployments unchanged, while any other failure is wrapped by the innermost
deployment.
-/

namespace Rollout

/-- Why a library could not be filled in. -/
inductive LinkProblem where
  /-- A library is still missing. -/
  | unresolved
  /-- The library is not named by file and name. -/
  | unqualified
  /-- What should be filled in is not an address. -/
  | badAddress (text : String)
  /-- A reference is not as long as an address. -/
  | badLength (start length : Number)
  /-- A reference ends behind the image. -/
  | outside (start : Number)
  /-- What should be a reference is a character of a text. -/
  | unplaced
  /-- A reason in words. -/
  | noted (detail : String)
  deriving DecidableEq

/-- The reason in words; a library that is merely missing has none. -/
def LinkProblem.detail? : LinkProblem → Option String
  | unresolved => none
  | unqualified => some "expected a fully qualified name of the form <file>:<library>"
  | badAddress text => some s!"invalid address {text}"
  | badLength start length =>
      some s!"reference at {start.text} is {length.text} bytes long, expected 20"
  | outside start => some s!"reference at {start.text} is outside the bytecode"
  | unplaced => some "reference at undefined is 1 bytes long, expected 20"
  | noted detail => if detail = "" then none else some detail

/-- What ends linking early: a problem with the library, or an operation of the runtime on a value
of a kind that does not have it. -/
inductive LinkFault where
  /-- A problem with the library. -/
  | problem (cause : LinkProblem)
  /-- An operation of the runtime. -/
  | mistyped (message : String)
  deriving DecidableEq

/-- Why a template is not a creation image. -/
inductive ArtifactProblem where
  /-- There is no text of an image. -/
  | missingObject
  /-- The text does not start with `0x`. -/
  | unmarked
  /-- The text has a character that belongs neither to a digit nor to a placeholder. -/
  | strayCharacters
  /-- The digits do not pair up into bytes. -/
  | oddDigits
  /-- The reference table is not a record. -/
  | badTable
  /-- The references of a file are not a record. -/
  | badFile (file : String)
  /-- The references of a library are not a list. -/
  | badList (library : String)
  /-- A reference lacks its start or its length. -/
  | badReference (library : String)
  /-- A reference ends behind the image. -/
  | outside (library : String) (start : Number)
  /-- The image that should be complete is not hexadecimal data. -/
  | notHex (label : String) (fault : HexFault)
  /-- A reason in words. -/
  | noted (detail : String)

/-- The reason in words. -/
def ArtifactProblem.detail : ArtifactProblem → String
  | missingObject => "missing bytecode object"
  | unmarked => "bytecode must start with '0x'"
  | strayCharacters =>
      "bytecode contains characters that are neither hex nor library placeholders"
  | oddDigits => "bytecode has an odd number of hex digits"
  | badTable => "linkReferences must be an object"
  | badFile file => s!"linkReferences for {file} must be an object"
  | badList library => s!"link references for {library} must be an array"
  | badReference library => s!"invalid link reference for {library}"
  | outside library start =>
      s!"link reference for {library} at {start.text} is outside the bytecode"
  | notHex label fault => fault.message label
  | noted detail => detail

/-- The class of a rejected argument. -/
inductive ArgumentCode where
  /-- The argument has a wrong value. -/
  | invalid
  /-- There are too few arguments. -/
  | missing
  /-- There are too many arguments. -/
  | unexpected
  /-- The argument does not fit into its place. -/
  | overrun
  deriving DecidableEq

/-- The name of the class. -/
def ArgumentCode.name : ArgumentCode → String
  | invalid => "INVALID_ARGUMENT"
  | missing => "MISSING_ARGUMENT"
  | unexpected => "UNEXPECTED_ARGUMENT"
  | overrun => "BUFFER_OVERRUN"

/-- A rejected argument of a call: what is wrong and the particulars, in the order in which they
are reported. -/
structure ArgumentFault where
  /-- The class. -/
  code : ArgumentCode
  /-- What is wrong. -/
  summary : String
  /-- Named particulars, already in their written form. -/
  details : List (String × String)
  deriving DecidableEq

/-- The version of the call interface that reports carry. -/
def callInterfaceVersion : String := "6.17.0"

/-- What is wrong, with the particulars in parentheses. -/
def ArgumentFault.message (fault : ArgumentFault) : String :=
  let details := fault.details ++ [("code", fault.code.name), ("version", callInterfaceVersion)]
  let parts := details.map fun (name, value) => name ++ "=" ++ value
  fault.summary ++ " (" ++ String.intercalate ", " parts ++ ")"

/-- Anything that can end a step of a deployment early. -/
inductive Failure where
  /-- A library of a contract could not be linked. -/
  | linking (contractName reference : String) (problem : LinkProblem)
  /-- The creation of a contract failed. -/
  | deployment (contract : Contract) (cause : Failure)
  /-- A template is not a creation image. -/
  | artifact (contractName : String) (problem : ArtifactProblem)
  /-- Another failure of the deployer's own family. -/
  | deployer (message code : String)
  /-- A failure outside that family. -/
  | plain (message : String)
  /-- A rejected argument. -/
  | argument (fault : ArgumentFault)
  /-- An operation on a value of a kind that does not have it. -/
  | mistyped (message : String)
  /-- A value that was thrown without being a failure. -/
  | thrown (value : Value)
  deriving Inhabited

/-- The failure to link a library of a contract. -/
def LinkFault.failure (contractName name : String) : LinkFault → Failure
  | problem cause => .linking contractName name cause
  | mistyped message => .mistyped message

namespace Failure

/-- What the failure says. -/
def message : Failure → String
  | linking contractName reference problem =>
      match problem.detail? with
      | some detail => s!"Failed to link {reference} into {contractName}: {detail}"
      | none => s!"{contractName} has an unresolved library reference: {reference}"
  | deployment contract cause => s!"Failed to deploy {contract.name}: {cause.message}"
  | artifact contractName problem =>
      s!"Malformed bytecode artifact for {contractName}: {problem.detail}"
  | deployer message _ => message
  | plain message => message
  | argument fault => fault.message
  | mistyped message => message
  | thrown value => value.display

/-- Whether it can be told what the failure says: a thrown value need not have a text. -/
def hasText : Failure → Bool
  | thrown value => value.display?.isSome
  | _ => true

/-- The failure of showing a value that cannot be shown. -/
def unshowable : Failure := .mistyped Value.unshowableMessage

/-- Whether the failure belongs to the deployer's own family. -/
def isOwn : Failure → Bool
  | linking .. | deployment .. | artifact .. | deployer .. => true
  | plain _ | argument _ | mistyped _ | thrown _ => false

/-- The name of the class within the deployer's own family. -/
def className? : Failure → Option String
  | linking .. => some "LinkingError"
  | deployment .. => some "DeploymentError"
  | artifact .. => some "ArtifactLoadError"
  | deployer .. => some "DeployerError"
  | plain _ | argument _ | mistyped _ | thrown _ => none

/-- The code of a failure of the deployer's own family. -/
def code? : Failure → Option String
  | linking .. => some "LINKING_ERROR"
  | deployment .. => some "DEPLOYMENT_ERROR"
  | artifact .. => some "ARTIFACT_LOAD_ERROR"
  | deployer _ code => some code
  | plain _ | argument _ | mistyped _ | thrown _ => none

/-- The particulars of a failure of the deployer's own family. -/
def context? : Failure → Option (List (String × String))
  | linking contractName reference _ =>
      some [("contractName", contractName), ("reference", reference)]
  | deployment contract _ => some [("contract", contract.name)]
  | artifact contractName _ => some [("contractName", contractName)]
  | deployer .. | plain _ | argument _ | mistyped _ | thrown _ => none

/-- The contract whose creation failed. -/
def contract? : Failure → Option Contract
  | deployment contract _ => some contract
  | _ => none

/-- The name of the class outside of the deployer's own family. -/
def foreignClassName : Failure → String
  | mistyped _ => "TypeError"
  | _ => "Error"

/-- The first line of a report: the class and what the failure says, or the class alone. -/
def headline? (failure : Failure) : Option String :=
  match failure with
  | thrown _ => none
  | failure =>
      let name := failure.className?.getD failure.foreignClassName
      some (if failure.message = "" then name else name ++ ": " ++ failure.message)

/-- The failure to create a contract, with its cause.  Its message shows the cause, so that a cause
which cannot be shown gives another failure in its place. -/
def ofCause (contract : Contract) (cause : Failure) : Failure :=
  if cause.hasText then .deployment contract cause else unshowable

end Failure

end Rollout
