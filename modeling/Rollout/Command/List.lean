import Rollout.Command.Deploy

/-!
# The command `list`

The command shows every tracked contract with its address, if one is configured.
-/

namespace Rollout.Command.Listing

open Console

/-- The lines about a contract. -/
def contractLines (colours : Bool) (addresses : List (Contract × Address)) (contract : Contract) :
    List String :=
  let status :=
    match addresses.find? fun entry => entry.1 == contract with
    | some (_, address) => paint colours [.green] address.text
    | none => paint colours [.gray] "not deployed"
  ["- " ++ paint colours [.cyan] contract.name ++ ": " ++ status,
    "  " ++ paint colours [.gray] "Env:" ++ " " ++ contract.envName ++ "  " ++
      paint colours [.gray] "Flag:" ++ " --" ++ contract.flag]

/-- All lines of the list. -/
def lines (colours : Bool) (addresses : List (Contract × Address)) : List String :=
  paint colours [.bold, .underline] "Known Contracts:" ::
    Contract.all.flatMap (contractLines colours addresses)

/-- Run the command. -/
def run (machine : Machine) (options : List (Flag × String)) : Report :=
  let environment := machine.loadEnvironment (valueOf? options .dotenv)
  match Configuration.deployedContracts (DeployOptions.predeployedValue options)
      (environmentValue environment) with
  | .ok addresses =>
      .ofWritings machine false
        (writeLines ((lines machine.colours addresses).map fun line => ⟨.output, line⟩))
  | .error fault =>
      .ofWritings machine true
        (writeLines
          [⟨.error, paint machine.colours [.red] "Error listing contracts:" ++ " " ++
            fault.message⟩])

end Rollout.Command.Listing
