import Rollout.Contract
import Rollout.Number.Numeral

/-!
# Command-line options

The options of the program and of its two commands, with their spellings and values.
-/

namespace Rollout.Command

/-- An option of the command line. -/
inductive Flag where
  /-- Show the version. -/
  | version
  /-- The endpoint of the chain. -/
  | rpcUrl
  /-- The key of the account that pays. -/
  | privateKey
  /-- Deploy the light client of tests. -/
  | mock
  /-- Where the addresses go. -/
  | out
  /-- The gas limit of every transaction. -/
  | gasLimit
  /-- The address of a contract that is deployed already. -/
  | predeployed (contract : Contract)
  /-- The environment file. -/
  | dotenv
  /-- Ask for more detail. -/
  | verbose
  deriving DecidableEq

namespace Flag

/-- The letter behind a single dash. -/
def letter? : Flag → Option Char
  | version => some 'V'
  | privateKey => some 'k'
  | out => some 'o'
  | verbose => some 'v'
  | _ => none

/-- The name behind two dashes. -/
def longName : Flag → String
  | version => "version"
  | rpcUrl => "rpc-url"
  | privateKey => "private-key"
  | mock => "mock"
  | out => "out"
  | gasLimit => "gas-limit"
  | predeployed contract => contract.flag
  | dotenv => "dotenv"
  | verbose => "verbose"

/-- What the value is called, if the option takes one. -/
def valueName? : Flag → Option String
  | rpcUrl => some "url"
  | privateKey => some "key"
  | out | dotenv => some "path"
  | gasLimit => some "gas"
  | predeployed _ => some "address"
  | version | mock | verbose => none

/-- The spelling in messages: all forms, and the name of the value. -/
def usage (flag : Flag) : String :=
  let letter := flag.letter?.elim "" fun c => String.ofList ['-', c] ++ ", "
  let value := flag.valueName?.elim "" fun name => " <" ++ name ++ ">"
  letter ++ "--" ++ flag.longName ++ value

/-- What the option does, as shown in the help. -/
def description : Flag → String
  | version => "output the version number"
  | rpcUrl => "JSON-RPC endpoint of the target chain. Can also be set via RPC_URL env var."
  | privateKey =>
      "Signer private key. Can also be set via PRIVATE_KEY env var. " ++
        "Defaults to the node's first account."
  | mock =>
      "Deploy LightClientMock and the mock verification key instead of the upgradable LightClient"
  | out => "Write the deployed addresses as a .env file to this path instead of stdout"
  | gasLimit => "Fixed gas limit for every transaction"
  | predeployed contract =>
      contract.description ++ ". Can also be set via " ++ contract.envName ++ " env var."
  | dotenv => "Path to a custom .env file"
  | verbose => "Enable verbose logging (use -vv or -vvv for more detail)"

/-- Whether an argument is the option in one of its forms. -/
def isSpelled (argument : String) (flag : Flag) : Bool :=
  argument == "--" ++ flag.longName ||
    flag.letter?.any fun c => argument == String.ofList ['-', c]

end Flag

/-- The options of the program itself. -/
def programFlags : List Flag := [.version]

/-- The options of both commands. -/
def sharedFlags : List Flag := Contract.all.map Flag.predeployed ++ [.dotenv]

/-- The options of the command `deploy`. -/
def deployFlags : List Flag :=
  [.rpcUrl, .privateKey, .mock, .out, .gasLimit] ++ sharedFlags ++ [.verbose]

/-- The options of the command `list`. -/
def listFlags : List Flag := sharedFlags

end Rollout.Command
