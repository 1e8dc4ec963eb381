import Rollout.Broadcast

/-!
# Deploying each contract once

A contract that is in the address book is not deployed again.  Any other is deployed by a
procedure, which may deploy what the contract depends on first, and is entered when the procedure
has given an address.  A failure of the deployer's own family passes through enclosing deployments
unchanged; any other is wrapped by the innermost one.  Each failure of that family is announced
once; a thrown value that cannot be shown cannot be wrapped, and what leaves then is announced by
nobody.
-/

namespace Rollout.Deployer

open Procedure

/-- Announce a failure as that of a contract and let it through. -/
def report {α : Type} (contract : Contract) (fault : Fault) : Procedure α := do
  modify fun session => { session with announced := fault.token :: session.announced }
  emit (.contractFailed contract.name fault.failure.message)
  throw fault

/-- Let a failure through, announcing it unless that was done before.  A failure that cannot be
told cannot be wrapped either: another one leaves in its place, without an announcement. -/
def announce {α : Type} (contract : Contract) (fault : Fault) : Procedure α := do
  if fault.failure.isOwn then
    if (← get).announced.contains fault.token then throw fault else report contract fault
  else
    let fault ← issue (.ofCause contract fault.failure)
    if fault.failure.isOwn then report contract fault else throw fault

/-- Run the procedure of a contract and enter the address that it gives. -/
def perform (contract : Contract) (procedure : Procedure Value) : Procedure Address := do
  record contract (← procedure)

/-- Deploy a contract by a procedure, unless its address is known. -/
def deploy (contract : Contract) (procedure : Procedure Value) : Procedure Address := do
  match (← get).book.lookup contract with
  | some address =>
      emit (.contractSkipped contract.name address.text)
      return address
  | none => do
      emit (.contractStarted contract.name)
      let address ← tryCatch (perform contract procedure) (announce contract)
      emit (.contractDeployed contract.name address.text)
      return address

/-- Deploy a contract by its creation transaction. -/
def deployImage (contract : Contract) (image : CreationImage) (arguments : Option Arguments) :
    Procedure Address :=
  deploy contract (Broadcast.createContract image arguments)

end Rollout.Deployer
