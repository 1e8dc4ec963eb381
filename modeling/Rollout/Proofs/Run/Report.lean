import Rollout.Proofs.LightClient.Deployment
import Rollout.Run

/-!
# Reports of runs

A run begins with the addresses that it is given, in the order of the contract table.  What it
reports is the outcome of the deployment from there, unless the sink refuses a line.
-/

namespace Rollout

/-- The sink takes all of some lines. -/
def Sink.Takes (sink : Sink) (lines : List String) : Prop := sink.take lines = (lines, none)

instance (sink : Sink) (lines : List String) : Decidable (sink.Takes lines) :=
  inferInstanceAs (Decidable (sink.take lines = (lines, none)))

namespace AddressBook

/-- The entries of some contracts to which an address is given. -/
def seedEntries (deployed : Value) (contracts : List Contract) : List (Contract × Address) :=
  contracts.filterMap fun contract =>
    ((Address.ofValue (deployed.field contract.name)).toOption.map fun address =>
      (contract, address))

theorem contracts_seedEntries (deployed : Value) (contracts : List Contract) :
    ((seedEntries deployed contracts).map Prod.fst).Sublist contracts := by
  induction contracts with
  | nil => exact List.Sublist.slnil
  | cons contract rest ih =>
      cases given : (Address.ofValue (deployed.field contract.name)).toOption with
      | none =>
          simp only [seedEntries, List.filterMap_cons, given, Option.map_none]
          exact ih.cons contract
      | some address =>
          simp only [seedEntries, List.filterMap_cons, given, Option.map_some, List.map_cons]
          exact ih.cons_cons contract

theorem seed_eq {deployed : Value} {contracts : List Contract} {book : AddressBook}
    (valid : ∀ contract ∈ contracts, (deployed.field contract.name).isGiven = true →
      (Address.ofValue (deployed.field contract.name)).isOk = true)
    (distinct : contracts.Nodup) (fresh : ∀ contract ∈ contracts, book.lookup contract = none) :
    seed deployed contracts book = .ok ⟨book.entries ++ seedEntries deployed contracts⟩ := by
  induction contracts generalizing book with
  | nil => rw [seed, seedEntries, List.filterMap_nil, List.append_nil]
  | cons contract rest ih =>
      rw [List.forall_mem_cons] at valid fresh
      rw [List.nodup_cons] at distinct
      cases given : (deployed.field contract.name).isGiven with
      | true =>
          obtain ⟨address, accepted⟩ := eq_ok_of_isOk (valid.1 given)
          have still : ∀ other ∈ rest, (book.insert contract address).lookup other = none := by
            intro other member
            have apart : other ≠ contract := fun same => distinct.1 (same ▸ member)
            rw [lookup_insert, if_neg apart]
            exact fresh.2 other member
          simp only [seed, given, if_true, AddressBook.record, accepted, Except.map]
          rw [ih valid.2 distinct.2 still, entries_insert_of_absent fresh.1]
          simp [seedEntries, accepted, Except.toOption]
      | false =>
          have skipped : (Address.ofValue (deployed.field contract.name)).toOption = none := by
            cases accepted : Address.ofValue (deployed.field contract.name) with
            | ok address =>
                rw [Address.isGiven_of_ofValue accepted] at given
                contradiction
            | error fault => rfl
          simp only [seed, given, Bool.false_eq_true, if_false]
          rw [ih valid.2 distinct.2 fresh.2]
          simp [seedEntries, skipped]

end AddressBook

namespace Run

namespace Options

/-- The variant of the light client that is deployed. -/
def variant (options : Options) : LightClient.Variant := .ofMock options.mock

/-- The constructor arguments of the light client. -/
def arguments (options : Options) : Option Arguments :=
  if options.mock then some (mockConstructorArguments options.mockArguments) else none

/-- Every address that is given in advance has the form of one. -/
def SeedsValid (options : Options) : Prop :=
  ∀ contract ∈ Contract.all, (options.deployed.field contract.name).isGiven = true →
    (Address.ofValue (options.deployed.field contract.name)).isOk = true

instance (options : Options) : Decidable options.SeedsValid :=
  inferInstanceAs (Decidable (∀ contract ∈ Contract.all,
    (options.deployed.field contract.name).isGiven = true →
      (Address.ofValue (options.deployed.field contract.name)).isOk = true))

/-- The book in which the addresses given in advance are entered. -/
def seedBook (options : Options) : AddressBook :=
  ⟨AddressBook.seedEntries options.deployed Contract.all⟩

theorem seeds_eq {options : Options} (valid : options.SeedsValid) :
    options.seeds = .ok options.seedBook := by
  have seeded : AddressBook.seed options.deployed Contract.all .empty = .ok options.seedBook :=
    AddressBook.seed_eq valid (by decide) fun _ _ => rfl
  cases absent : options.deployed.isAbsent with
  | true =>
      have none : options.seedBook = .empty := by
        cases value : options.deployed with
        | missing => rw [seedBook, value]; rfl
        | null => rw [seedBook, value]; rfl
        | _ => simp [value, Value.isAbsent] at absent
      rw [seeds, absent, if_pos rfl, none]
  | false =>
      rw [seeds, absent, if_neg Bool.false_ne_true, AddressBook.ofDeployed, absent,
        if_neg Bool.false_ne_true, seeded]

/-- The session in which a run starts from a book. -/
def opening (options : Options) (signer : Signer) (book : AddressBook) : Session :=
  .start signer options.gasLimit book

end Options

theorem deployment_eq (options : Options) :
    deployment options =
      Deployer.deploy .lightClient (LightClient.create options.variant options.arguments) := by
  cases mocked : options.mock with
  | true => simp [deployment, mocked, Options.variant, Options.arguments,
      LightClient.Variant.ofMock, LightClient.deployMock]
  | false => simp [deployment, mocked, Options.variant, Options.arguments,
      LightClient.Variant.ofMock, LightClient.deployProduction]

/-- The event that closes a deployment. -/
def closingEvent : Except Failure Address → Event
  | .ok address => .deploymentCompleted address.text
  | .error failure => failureEvent failure

theorem outcome_deployAndReport (options : Options) (session : Session) :
    outcome (deployAndReport options) session =
      ((outcome (deployment options) session).1,
        (outcome (deployment options) session).2.report
          (closingEvent (outcome (deployment options) session).1)) := by
  simp only [outcome, deployAndReport, Procedure.tryCatch_apply, Procedure.bind_apply]
  cases deployment options session <;> rfl

theorem runDeployment_eq {options : Options} {book : AddressBook}
    (seeded : options.seeds = .ok book) (signer : Signer) (sink : Sink) :
    runDeployment options signer sink =
      writeOut options.destination sink
        (outcome (deployment options) (options.opening signer book)).1
        ((outcome (deployment options) (options.opening signer book)).2.report
          (closingEvent (outcome (deployment options) (options.opening signer book)).1)) := by
  simp only [runDeployment, seeded, Options.opening, outcome_deployAndReport]

section WriteOut

variable (destination : String) (sink : Sink) (result : Except Failure Address)
  (session : Session)

theorem writeOut_sent : (writeOut destination sink result session).sent = session.sent := by
  simp only [writeOut]
  split <;> rfl

theorem writeOut_book : (writeOut destination sink result session).book = session.book := by
  simp only [writeOut]
  split <;> rfl

theorem writeOut_of_takes (takes : sink.Takes session.book.lines) :
    (writeOut destination sink result session).result = result ∧
      (writeOut destination sink result session).written = session.book.lines := by
  rw [Sink.Takes] at takes
  simp only [writeOut, takes, and_self]

end WriteOut

theorem outcome_snd {α : Type} (procedure : Procedure α) (session : Session) :
    (outcome procedure session).2 = Procedure.final (procedure session) := by
  rw [outcome]
  cases procedure session <;> rfl

section Report

variable {options : Options} {book : AddressBook} (seeded : options.seeds = .ok book)
  (signer : Signer) (sink : Sink)

include seeded in
theorem report_sent :
    (runDeployment options signer sink).sent =
      (Procedure.final (deployment options (options.opening signer book))).sent := by
  rw [runDeployment_eq seeded, writeOut_sent, outcome_snd]
  rfl

include seeded in
theorem report_book :
    (runDeployment options signer sink).book =
      (Procedure.final (deployment options (options.opening signer book))).book := by
  rw [runDeployment_eq seeded, writeOut_book, outcome_snd]
  rfl

include seeded in
theorem report_of_takes (takes : sink.Takes (runDeployment options signer sink).book.lines) :
    (runDeployment options signer sink).result =
        (outcome (deployment options) (options.opening signer book)).1 ∧
      (runDeployment options signer sink).written =
        (runDeployment options signer sink).book.lines := by
  rw [runDeployment_eq seeded, writeOut_book] at takes
  rw [runDeployment_eq seeded, writeOut_book]
  exact writeOut_of_takes _ sink _ _ takes

end Report

end Run

end Rollout
