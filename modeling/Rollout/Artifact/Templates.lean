import Rollout.Artifact.Parser

/-!
# Embedded templates

The creation images that this program deploys, and the libraries that they link.
-/

namespace Rollout

/-- An embedded creation image. -/
inductive Template where
  /-- The proof verifier library. -/
  | plonkVerifier
  /-- The verification key library of production. -/
  | stateUpdateVK
  /-- The verification key library of tests. -/
  | stateUpdateVKMock
  /-- The upgradable light client. -/
  | lightClient
  /-- The light client of tests, which its constructor initializes. -/
  | lightClientMock
  deriving DecidableEq, Inhabited

namespace Template

/-- Every template. -/
def all : List Template :=
  [plonkVerifier, stateUpdateVK, stateUpdateVKMock, lightClient, lightClientMock]

/-- The name of the contract that a template creates. -/
def name : Template → String
  | plonkVerifier => "PlonkVerifier"
  | stateUpdateVK => "LightClientStateUpdateVK"
  | stateUpdateVKMock => "LightClientStateUpdateVKMock"
  | lightClient => "LightClient"
  | lightClientMock => "LightClientMock"

/-- The template of a name. -/
def ofName? (name : String) : Option Template := all.find? fun template => template.name == name

/-- The file of the proof verifier library. -/
def plonkVerifierFile : String := "contracts/src/libraries/PlonkVerifier.sol"

/-- The file of the verification key library of production. -/
def stateUpdateVKFile : String := "contracts/src/libraries/LightClientStateUpdateVK.sol"

/-- The file of the verification key library of tests. -/
def stateUpdateVKMockFile : String := "contracts/tests/mocks/LightClientStateUpdateVKMock.sol"

/-- The qualified name under which light clients link the proof verifier. -/
def plonkVerifierLibrary : String := plonkVerifierFile ++ ":PlonkVerifier"

/-- The qualified name under which the production light client links its verification key. -/
def stateUpdateVKLibrary : String := stateUpdateVKFile ++ ":LightClientStateUpdateVK"

/-- The qualified name under which the light client of tests links its verification key. -/
def stateUpdateVKMockLibrary : String := stateUpdateVKMockFile ++ ":LightClientStateUpdateVKMock"

/-- The text of the image. -/
def object : Template → String
  | plonkVerifier => "0x600a80600b6000396000f3600160005260206000f3"
  | stateUpdateVK => "0x600a80600b6000396000f3600260005260206000f3"
  | stateUpdateVKMock => "0x600a80600b6000396000f3600360005260206000f3"
  | lightClient =>
      "0x602d80600b6000396000f373__$5c5c07cf4f55be9472c2b47d897172e765$__5073" ++
        "__$d53c34a4bb2fd34f6057e8312cdf5f1e79$__5000"
  | lightClientMock =>
      "0x603080600b6000396000f373__$5c5c07cf4f55be9472c2b47d897172e765$__5073" ++
        "__$d81e1b0aa3773bc0e99ebeed37b64f4ed5$__5060015000"

/-- The table entry of a library of a file with one reference, as long as an address. -/
def singleReference (file library : String) (start : Int) : String × Value :=
  (file,
    .record
      [(library,
        .list [.record [("start", .number (.int start)), ("length", .number (.int 20))]])])

/-- The reference table of the image. -/
def references : Template → List (String × Value)
  | plonkVerifier | stateUpdateVK | stateUpdateVKMock => []
  | lightClient =>
      [singleReference plonkVerifierFile "PlonkVerifier" 12,
        singleReference stateUpdateVKFile "LightClientStateUpdateVK" 34]
  | lightClientMock =>
      [singleReference plonkVerifierFile "PlonkVerifier" 12,
        singleReference stateUpdateVKMockFile "LightClientStateUpdateVKMock" 34]

/-- The template in the form in which templates are read. -/
def value (template : Template) : Value :=
  .record [("object", .text template.object), ("linkReferences", .record template.references)]

/-- Read the embedded template. -/
def load (template : Template) : Except Failure Artifact :=
  Artifact.parse template.value template.name

/-- Read the embedded template of a name; there is nothing to read under another name. -/
def loadByName (name : String) : Except Failure Artifact :=
  match ofName? name with
  | some template => template.load
  | none => Artifact.parse .missing name

end Template

end Rollout
