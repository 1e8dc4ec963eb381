import Rollout.LightClient.Deployment

/-!
# Deployment runs

A run seeds an address book, deploys the light client with its libraries, and then writes out
every known address, whether the deployment succeeded or not.  The outcome is reported before the
addresses are written.  When writing them fails, that failure is the outcome of the run.
-/

namespace Rollout

/-- Where exported lines go: a place that takes all of them, or one that refuses a line. -/
structure Sink where
  /-- The number of the refused line, counted from one, and the complaint. -/
  refusal : Option (Nat × String)
  deriving DecidableEq, Inhabited

namespace Sink

/-- A sink that takes every line. -/
def unlimited : Sink := ⟨none⟩

/-- The lines that are taken, and the complaint about the next one. -/
def take (sink : Sink) (lines : List String) : List String × Option String :=
  match sink.refusal with
  | none => (lines, none)
  | some (n, complaint) =>
      if 1 ≤ n ∧ n ≤ lines.length then (lines.take (n - 1), some complaint) else (lines, none)

end Sink

namespace Run

/-- What a run is asked to do. -/
structure Options where
  /-- The addresses to reuse. -/
  deployed : Value
  /-- Whether to deploy the light client of tests. -/
  mock : Bool
  /-- The constructor arguments of the light client of tests. -/
  mockArguments : Option MockArguments
  /-- Where the sink writes to, for reports. -/
  destination : String
  /-- The gas limit of every transaction. -/
  gasLimit : Option Number

/-- What became of a run. -/
structure Report where
  /-- The address of the light client, or what failed. -/
  result : Except Failure Address
  /-- The lines that the sink has taken. -/
  written : List String
  /-- The events, in order. -/
  events : List Event
  /-- The transactions, in order. -/
  sent : List Transaction
  /-- The addresses known at the end. -/
  book : AddressBook

/-- Deploy the variant that is asked for. -/
def deployment (options : Options) : Procedure Address :=
  if options.mock then LightClient.deployMock options.mockArguments
  else LightClient.deployProduction

/-- The event that closes a failed deployment. -/
def failureEvent (failure : Failure) : Event :=
  .deploymentFailed failure.message failure.headline? (failure.contract?.map Contract.name)

/-- Deploy and report the outcome. -/
def deployAndReport (options : Options) : Procedure Address :=
  tryCatch
    (do
      let address ← deployment options
      Procedure.emit (.deploymentCompleted address.text)
      return address)
    fun fault => do
      Procedure.emit (failureEvent fault.failure)
      throw fault

/-- The outcome of a procedure and the session that it leaves. -/
def outcome {α : Type} (procedure : Procedure α) (session : Session) :
    Except Failure α × Session :=
  match procedure session with
  | .ok value session => (.ok value, session)
  | .error fault session => (.error fault.failure, session)

/-- Write out the addresses of a finished deployment. -/
def writeOut (destination : String) (sink : Sink) (result : Except Failure Address)
    (session : Session) : Report :=
  let (written, complaint) := sink.take session.book.lines
  match complaint with
  | some complaint =>
      { result := .error (.plain complaint)
        written
        events := session.log
        sent := session.sent
        book := session.book }
  | none =>
      { result
        written
        events := session.log ++ [.addressesWritten destination (.int session.book.size)]
        sent := session.sent
        book := session.book }

end Run

/-- The addresses that a run starts with; without a record there are none. -/
def Run.Options.seeds (options : Run.Options) : Except SeedFault AddressBook :=
  if options.deployed.isAbsent then .ok .empty else AddressBook.ofDeployed options.deployed

/-- Run one deployment. -/
def runDeployment (options : Run.Options) (signer : Signer) (sink : Sink) : Run.Report :=
  match options.seeds with
  | .error fault =>
      { result := .error (.plain fault.message)
        written := []
        events := []
        sent := []
        book := .empty }
  | .ok book =>
      let (result, session) :=
        Run.outcome (Run.deployAndReport options) (.start signer options.gasLimit book)
      Run.writeOut options.destination sink result session

end Rollout
