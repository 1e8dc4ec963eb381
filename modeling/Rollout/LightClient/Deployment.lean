import Rollout.Artifact.Linking
import Rollout.Artifact.Templates
import Rollout.Deployer
import Rollout.LightClient.State

/-!
# Deploying the light client

The light client links a proof verifier and a verification key, which are deployed first.  The
variant of production is initialized later through a proxy; the variant of tests by its
constructor.
-/

namespace Rollout.LightClient

open Procedure

/-- A light client with its verification key. -/
structure Variant where
  /-- The creation image of the light client. -/
  template : Template
  /-- The creation image of its verification key. -/
  keyTemplate : Template
  /-- The qualified name under which it links the key. -/
  keyLibrary : String

/-- The variant of production. -/
def production : Variant :=
  ⟨.lightClient, .stateUpdateVK, Template.stateUpdateVKLibrary⟩

/-- The variant of tests. -/
def mock : Variant :=
  ⟨.lightClientMock, .stateUpdateVKMock, Template.stateUpdateVKMockLibrary⟩

/-- Deploy a library by its template. -/
def deployLibrary (contract : Contract) (template : Template) : Procedure Address := do
  let image ← adopt (template.load.bind Artifact.resolve)
  Deployer.deployImage contract image none

/-- Link a library and report it. -/
def linkAndReport (artifact : Artifact) (library : String) (address : Address) :
    Procedure Artifact := do
  let linked ← adopt (artifact.applyLink library address.text)
  emit (.libraryLinked linked.contractName library address.text)
  return linked

/-- Deploy both libraries of a variant and link them into its image. -/
def deployAndLink (variant : Variant) : Procedure Artifact := do
  let verifier ← deployLibrary .plonkVerifier .plonkVerifier
  let key ← deployLibrary .stateUpdateVK variant.keyTemplate
  let artifact ← adopt variant.template.load
  let artifact ← linkAndReport artifact Template.plonkVerifierLibrary verifier
  linkAndReport artifact variant.keyLibrary key

/-- Deploy the libraries of a variant, then the light client. -/
def create (variant : Variant) (arguments : Option Arguments) : Procedure Value := do
  let artifact ← deployAndLink variant
  let image ← adopt artifact.resolve
  Broadcast.createContract image arguments

/-- Deploy the light client of production. -/
def deployProduction : Procedure Address :=
  Deployer.deploy .lightClient (create production none)

/-- Deploy the light client of tests. -/
def deployMock (arguments : Option MockArguments) : Procedure Address :=
  Deployer.deploy .lightClient (create mock (some (mockConstructorArguments arguments)))

end Rollout.LightClient
