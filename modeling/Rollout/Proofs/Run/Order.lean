import Mathlib.Data.List.Nodup
import Rollout.Proofs.Run.Report

/-!
# The order of a run

A run hands over one creation transaction for each missing contract, a library before the light
client, up to the first that fails.  It enters exactly the contracts that succeed, behind the
addresses given in advance, and gives the address of the light client if and only if all of them
do; otherwise it names the first that failed.
-/

namespace Rollout.Run

open LightClient

namespace Options

/-- The contracts that a run has to create. -/
def missing (options : Options) : List Contract := LightClient.missing options.seedBook

/-- The contracts that a run creates, each with the address in the receipt of its own
transaction. -/
def created (options : Options) (signer : Signer) : List (Contract × Address) :=
  creations (attempt signer options.arguments) 1 options.missing

/-- The contracts for which a run hands over a transaction. -/
def attempted (options : Options) (signer : Signer) : List Contract :=
  LightClient.attempted signer options.arguments 1 options.missing

/-- The gas limit of every transaction; a limit of zero is none. -/
def limit (options : Options) : Option Number :=
  options.gasLimit.filter fun limit => !limit.isZero

end Options

theorem deployment_carried (options : Options) (before : Session) :
    Carried options.variant options.arguments (LightClient.missing before.book) before
      (deployment options before) := by
  rw [deployment_eq]
  exact deploy_carried (Variant.layout options.mock) options.arguments before

/-- What a run does with the contracts that are missing. -/
structure InOrder (options : Options) (signer : Signer) (report : Report) : Prop where
  /-- One transaction after the other creates what is missing. -/
  sent : List.Forall₂ (Creates options.variant options.arguments options.limit)
    (options.attempted signer) report.sent
  /-- The created contracts stand behind those that were given. -/
  book : report.book.entries = options.seedBook.entries ++ options.created signer
  /-- The run gives an address if and only if all missing contracts are created. -/
  resolves : (∃ address, report.result = .ok address) ↔
    (options.created signer).map Prod.fst = options.missing
  /-- The address is that of the light client. -/
  address : ∀ address, report.result = .ok address →
    report.book.lookup .lightClient = some address
  /-- A run that fails names the first contract that was not created. -/
  rejects : ∀ failure, report.result = .error failure →
    ∃ contract cause, options.missing[(options.created signer).length]? = some contract ∧
      failure = .deployment contract cause

theorem sent_creates {options : Options} (valid : options.SeedsValid) (signer : Signer)
    (sink : Sink) :
    List.Forall₂ (Creates options.variant options.arguments options.limit)
      (options.attempted signer) (runDeployment options signer sink).sent := by
  obtain ⟨transactions, sent, creates, _⟩ :=
    (deployment_carried options (options.opening signer options.seedBook)).effect
  have sent_eq : (runDeployment options signer sink).sent = transactions :=
    (report_sent (Options.seeds_eq valid) signer sink).trans sent
  exact sent_eq ▸ creates

theorem book_entries {options : Options} (valid : options.SeedsValid) (signer : Signer)
    (sink : Sink) :
    (runDeployment options signer sink).book.entries =
      options.seedBook.entries ++ options.created signer := by
  obtain ⟨_, _, _, book⟩ :=
    (deployment_carried options (options.opening signer options.seedBook)).effect
  rw [report_book (Options.seeds_eq valid)]
  exact book

theorem missing_nodup (options : Options) : options.missing.Nodup := by
  rw [Options.missing, LightClient.missing]
  split
  · exact List.nodup_nil
  · exact List.Nodup.filter _ (by decide)

/-- No contract has two entries at the end of a run. -/
theorem contracts_nodup {options : Options} (valid : options.SeedsValid) (signer : Signer)
    (sink : Sink) : (runDeployment options signer sink).book.contracts.Nodup := by
  have made : ((options.created signer).map Prod.fst).Sublist options.missing :=
    (contracts_creations 1 options.missing).sublist
  have given : options.seedBook.contracts.Sublist Contract.all :=
    AddressBook.contracts_seedEntries options.deployed Contract.all
  rw [AddressBook.contracts, book_entries valid, List.map_append, List.nodup_append]
  refine ⟨given.nodup (by decide), made.nodup (missing_nodup options), ?_⟩
  rintro contract seeded _ created rfl
  have member : contract ∈ LightClient.missing options.seedBook := made.subset created
  rw [LightClient.missing] at member
  split at member
  · contradiction
  · have absent := (List.mem_filter.mp member).2
    rw [Option.isNone_iff_eq_none, AddressBook.lookup_eq_none_iff] at absent
    exact absent seeded

theorem map_created_eq_iff (options : Options) (signer : Signer) :
    (options.created signer).map Prod.fst = options.missing ↔
      (options.created signer).length = options.missing.length := by
  constructor
  · intro same
    rw [← same, List.length_map]
  · intro same
    refine (contracts_creations 1 options.missing).eq_of_length ?_
    rw [List.length_map]
    exact same

/-- A run creates what is missing, in order, and stops at the first contract that fails. -/
theorem creates_missing_in_order (options : Options) (signer : Signer) (sink : Sink)
    (valid : options.SeedsValid)
    (takes : sink.Takes (runDeployment options signer sink).book.lines) :
    InOrder options signer (runDeployment options signer sink) := by
  have carried := deployment_carried options (options.opening signer options.seedBook)
  have seeded := Options.seeds_eq valid
  obtain ⟨result, _⟩ := report_of_takes seeded signer sink takes
  refine ⟨sent_creates valid signer sink, book_entries valid signer sink, ?_, ?_, ?_⟩
  · rw [map_created_eq_iff, result, outcome]
    cases concluded : deployment options (options.opening signer options.seedBook) with
    | ok address after =>
        rw [concluded] at carried
        exact iff_of_true ⟨address, rfl⟩ carried.progress_of_ok.complete
    | error fault after =>
        rw [concluded] at carried
        obtain ⟨contract, cause, stopped, _⟩ := carried.failure_of_error
        refine iff_of_false (by simp) fun complete => ?_
        have bound := (List.getElem?_eq_some_iff.mp stopped).1
        exact absurd complete (Nat.ne_of_lt bound)
  · intro address given
    rw [report_book seeded]
    rw [result, outcome] at given
    cases concluded : deployment options (options.opening signer options.seedBook) with
    | ok found after =>
        rw [concluded] at given
        cases given
        rw [deployment_eq] at concluded
        exact Deployer.lookup_of_deploy concluded
    | error fault after =>
        rw [concluded] at given
        contradiction
  · intro failure given
    rw [result, outcome] at given
    cases concluded : deployment options (options.opening signer options.seedBook) with
    | ok found after =>
        rw [concluded] at given
        contradiction
    | error fault after =>
        rw [concluded] at given carried
        cases given
        exact carried.failure_of_error

/-- A signer about which nothing is given. -/
def usualSigner : Signer := ⟨Signer.usualAddress, Signer.usualChainId, true, []⟩

/-- The light client of tests with a history limit of more than four bytes and a key that is
deployed already. -/
def oversizedRun : Options :=
  { deployed := .record
      [("StateUpdateVK", .text "0xABCDEFabcdef0123456789ABCDEFabcdef012345")]
    mock := true
    mockArguments := some ⟨.dummyGenesis, .int 0x100000000⟩
    destination := "stdout"
    gasLimit := none }

theorem creates_missing_in_order_oversized :
    oversizedRun.SeedsValid ∧
      oversizedRun.missing = [.plonkVerifier, .lightClient] ∧
      oversizedRun.attempted usualSigner = [.plonkVerifier] ∧
      InOrder oversizedRun usualSigner (runDeployment oversizedRun usualSigner .unlimited) := by
  have valid : oversizedRun.SeedsValid := by decide +kernel
  exact ⟨valid, by decide +kernel, by decide +kernel,
    creates_missing_in_order oversizedRun usualSigner .unlimited valid rfl⟩

end Rollout.Run
