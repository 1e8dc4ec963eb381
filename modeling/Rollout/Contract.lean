/-!
# Tracked contracts

The contracts whose addresses are reused and recorded, in the order of seeding and reporting,
with the name under which each is exported and the option that supplies its address.
-/

namespace Rollout

/-- A contract that can be deployed or reused. -/
inductive Contract where
  /-- The consensus contract. -/
  | hotShot
  /-- The proof verifier library. -/
  | plonkVerifier
  /-- The verification key library of state updates. -/
  | stateUpdateVK
  /-- The light client. -/
  | lightClient
  /-- The proxy in front of the light client. -/
  | lightClientProxy
  deriving DecidableEq, Inhabited, Repr

namespace Contract

/-- Every contract, in the order of seeding. -/
def all : List Contract :=
  [hotShot, plonkVerifier, stateUpdateVK, lightClient, lightClientProxy]

/-- The name used in messages and events. -/
def name : Contract → String
  | hotShot => "HotShot"
  | plonkVerifier => "PlonkVerifier"
  | stateUpdateVK => "StateUpdateVK"
  | lightClient => "LightClient"
  | lightClientProxy => "LightClientProxy"

/-- The environment variable that holds the address; it is also the exported name. -/
def envName : Contract → String
  | hotShot => "ESPRESSO_SEQUENCER_HOTSHOT_ADDRESS"
  | plonkVerifier => "ESPRESSO_SEQUENCER_PLONK_VERIFIER_ADDRESS"
  | stateUpdateVK => "ESPRESSO_SEQUENCER_LIGHT_CLIENT_STATE_UPDATE_VK_ADDRESS"
  | lightClient => "ESPRESSO_SEQUENCER_LIGHT_CLIENT_ADDRESS"
  | lightClientProxy => "ESPRESSO_SEQUENCER_LIGHT_CLIENT_PROXY_ADDRESS"

/-- The command-line option that supplies the address, without its dashes. -/
def flag : Contract → String
  | hotShot => "hotshot"
  | plonkVerifier => "plonk-verifier"
  | stateUpdateVK => "light-client-state-update-vk"
  | lightClient => "light-client"
  | lightClientProxy => "light-client-proxy"

/-- The field of the parsed options that holds the address. -/
def optionKey : Contract → String
  | hotShot => "hotshot"
  | plonkVerifier => "plonkVerifier"
  | stateUpdateVK => "lightClientStateUpdateVk"
  | lightClient => "lightClient"
  | lightClientProxy => "lightClientProxy"

/-- What the option does, as shown in the help. -/
def description (contract : Contract) : String :=
  let subject :=
    match contract with
    | hotShot => "HotShot.sol"
    | plonkVerifier => "PlonkVerifier.sol"
    | stateUpdateVK => "LightClientStateUpdateVK.sol"
    | lightClient => "LightClient.sol"
    | lightClientProxy => "LightClient.sol proxy"
  "Use an already-deployed " ++ subject ++ " instead of deploying a new one"

/-- The contract of a name. -/
def ofName? (name : String) : Option Contract :=
  all.find? fun contract => contract.name == name

theorem mem_all (contract : Contract) : contract ∈ all := by
  cases contract <;> decide

end Contract

end Rollout
