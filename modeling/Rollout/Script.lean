import Rollout.LightClient.Deployment

/-!
# Scripts

A script is a list of actions on one deployer, among them deployments whose procedures are scripts
in turn.  Its value is that of the last action that has one, unless an action ends it early with a
value of its own.
-/

namespace Rollout

/-- An action on a deployer. -/
inductive Action where
  /-- Deploy a contract by a script. -/
  | deploy (contract : Contract) (body : List Action)
  /-- Deploy a contract by its creation transaction. -/
  | broadcast (contract : Contract) (image : CreationImage) (arguments : Option Arguments)
  /-- Create a contract outside the address book. -/
  | create (image : CreationImage) (arguments : Option Arguments)
  /-- Deploy the light client of production. -/
  | production
  /-- Deploy the light client of tests. -/
  | mock (arguments : Option MockArguments)
  /-- Enter an address in the book. -/
  | record (contract : Contract) (address : Value)
  /-- Look an address up in the book. -/
  | lookup (contract : Contract)
  /-- End the script with a value. -/
  | finish (value : Value)
  /-- Fail. -/
  | fail (failure : Failure)
  /-- Run a script and, if it fails, keep the failure under a name and go on. -/
  | attempt (name : String) (body : List Action)
  /-- Fail again with a kept failure. -/
  | failAgain (name : String)
  deriving Inhabited

namespace Action

/-- What an action does to the script it stands in. -/
inductive Effect where
  /-- The script goes on and its value is unchanged. -/
  | none
  /-- The script goes on with a value. -/
  | value (value : Value)
  /-- The script ends with a value. -/
  | finish (value : Value)
  deriving Inhabited

/-- Keep a failure under a name. -/
def keep (name : String) (fault : Fault) : Procedure Unit :=
  modify fun session =>
    { session with kept := (name, fault) :: session.kept.filter fun entry => entry.1 != name }

/-- The effect of an action that deploys. -/
def deployed (procedure : Procedure Address) : Procedure Effect := do
  return .value (.text (← procedure).text)

/-- Fail again with the failure kept under a name; if there is none, nothing at all is thrown. -/
def rethrow {α : Type} (name : String) : Procedure α := do
  match (← get).kept.find? fun entry => entry.1 == name with
  | some (_, fault) => throw fault
  | none => Procedure.fail (.thrown .missing)

mutual

/-- Perform an action. -/
def perform : Action → Procedure Effect
  | deploy contract body => deployed (Deployer.deploy contract (performAll body .missing))
  | broadcast contract image arguments =>
      deployed (Deployer.deployImage contract image arguments)
  | create image arguments => do
      return .value (← Broadcast.createContract image arguments)
  | production => deployed LightClient.deployProduction
  | mock arguments => deployed (LightClient.deployMock arguments)
  | record contract address => do
      let _ ← Procedure.record contract address
      return .none
  | lookup contract => do
      match (← get).book.lookup contract with
      | some address => return .value (.text address.text)
      | none => return .value .missing
  | finish value => return .finish value
  | fail failure => Procedure.fail failure
  | attempt name body =>
      tryCatch
        (do return .value (← performAll body .missing))
        fun fault => do
          keep name fault
          return .none
  | failAgain name => rethrow name

/-- Perform actions in turn, `last` being the value so far. -/
def performAll : List Action → Value → Procedure Value
  | [], last => return last
  | action :: rest, last => do
      match ← perform action with
      | .none => performAll rest last
      | .value value => performAll rest value
      | .finish value => return value

end

end Action

/-- Run a script on a session; the session that it leaves is known whether it fails or not. -/
def Session.perform (session : Session) (actions : List Action) :
    Except Failure Value × Session :=
  match Action.performAll actions .missing session with
  | .ok value session => (.ok value, session)
  | .error fault session => (.error fault.failure, session)

end Rollout
