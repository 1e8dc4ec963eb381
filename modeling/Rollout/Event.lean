import Rollout.Value

/-!
# Events of a deployment

Everything a deployment reports is an event; consoles and other listeners decide what to show.
-/

namespace Rollout

/-- A report of progress or failure. -/
inductive Event where
  /-- A run begins. -/
  | deploymentStarted (rpcUrl variant : String) (predeployed : List String)
  /-- A run has reached its goal. -/
  | deploymentCompleted (address : String)
  /-- A run has failed; a stack and the failing contract are known for some failures. -/
  | deploymentFailed (error : String) (stack contract : Option String)
  /-- The account that pays is known. -/
  | signerInfo (chainId : Number) (address : String)
  /-- A contract is deployed already. -/
  | contractSkipped (contract address : String)
  /-- The deployment of a contract begins. -/
  | contractStarted (contract : String)
  /-- A contract is deployed. -/
  | contractDeployed (contract address : String)
  /-- The deployment of a contract has failed. -/
  | contractFailed (contract error : String)
  /-- A library has been filled in. -/
  | libraryLinked (contractName library address : String)
  /-- A transaction has been accepted. -/
  | transactionSent (receiver : String) (contractName : Option String) (dataPreview txHash : String)
  /-- A transaction has been mined. -/
  | transactionConfirmed (txHash : String) (blockNumber contractAddress : Value)
  /-- The known addresses have been written out. -/
  | addressesWritten (destination : String) (count : Number)
  /-- A failure that nobody waited for. -/
  | unhandledRejection (reason : Value)
  /-- A failure that nobody caught. -/
  | uncaughtException (error : Value)
  /-- A command has failed. -/
  | commandFailed (message : Value)
  /-- A report of a kind that this program does not issue. -/
  | foreign (kind : String)
  deriving Inhabited

namespace Event

/-- The name of the kind of an event. -/
def kind : Event → String
  | deploymentStarted .. => "deployment_started"
  | deploymentCompleted .. => "deployment_completed"
  | deploymentFailed .. => "deployment_failed"
  | signerInfo .. => "network_signer_info"
  | contractSkipped .. => "contract_deployment_skipped"
  | contractStarted .. => "contract_deployment_started"
  | contractDeployed .. => "contract_deployed"
  | contractFailed .. => "contract_deployment_failed"
  | libraryLinked .. => "library_linked"
  | transactionSent .. => "transaction_sent"
  | transactionConfirmed .. => "transaction_confirmed"
  | addressesWritten .. => "addresses_written"
  | unhandledRejection .. => "unhandled_rejection"
  | uncaughtException .. => "uncaught_exception"
  | commandFailed .. => "cli_error"
  | foreign kind => kind

/-- How serious an event is. -/
inductive Level where
  /-- Details for finding faults. -/
  | debug
  /-- Regular progress. -/
  | info
  /-- A failure. -/
  | error
  deriving DecidableEq

/-- The name of a level. -/
def Level.name : Level → String
  | debug => "debug"
  | info => "info"
  | error => "error"

/-- The level at which an event is issued. -/
def level : Event → Level
  | deploymentFailed .. | contractFailed .. | unhandledRejection .. | uncaughtException ..
  | commandFailed .. => .error
  | libraryLinked .. => .debug
  | _ => .info

end Event

end Rollout
