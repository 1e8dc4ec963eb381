import Rollout.Proofs.LetterCase.Deployment
import Rollout.Proofs.Run.Events
import Rollout.Proofs.Run.Linkage

/-!
# Runs up to letter case

The letter case of the addresses that are given in advance, or found in receipts, makes no
difference to what a run hands over, writes out and reports.
-/

namespace Rollout.Run

/-- What is asked for differs at most in the letter case of the addresses given in advance, and in
the name of the place that is written to. -/
structure Options.Alike (left right : Options) : Prop where
  mock : left.mock = right.mock
  mockArguments : left.mockArguments = right.mockArguments
  gasLimit : left.gasLimit = right.gasLimit
  seeds : ∀ contract : Contract,
    (left.deployed.field contract.name).Alike (right.deployed.field contract.name)

namespace Options.Alike

variable {left right : Options} (alike : left.Alike right)

include alike in
theorem seedsValid (valid : left.SeedsValid) : right.SeedsValid := by
  intro contract member given
  have same := alike.seeds contract
  rw [← same.isGiven_eq] at given
  obtain ⟨address, accepted⟩ := eq_ok_of_isOk (valid contract member given)
  obtain ⟨twin, other, _⟩ := same.accepted accepted
  rw [other]
  rfl

include alike in
theorem seedBook : left.seedBook.Alike right.seedBook :=
  AddressBook.seedEntries_alike alike.seeds Contract.all

include alike in
theorem opening {first second : Signer} (signers : first.Alike second) :
    (left.opening first left.seedBook).Alike (right.opening second right.seedBook) where
  signer := signers
  gasLimit := by rw [Options.opening, Options.opening, Session.start, Session.start, alike.gasLimit]
  book := alike.seedBook
  kinds := rfl
  sent := rfl
  issued := rfl
  announced := rfl

include alike in
theorem deployment_parallel :
    Procedure.Parallel Procedure.AddressAlike (deployment left) (deployment right) := by
  have variants : left.variant = right.variant := by
    rw [Options.variant, Options.variant, alike.mock]
  have given : left.arguments = right.arguments := by
    rw [Options.arguments, Options.arguments, alike.mock, alike.mockArguments]
  rw [deployment_eq, deployment_eq, variants, given]
  exact Procedure.deploy_parallel .lightClient (Procedure.create_parallel _ _)

end Options.Alike

/-- Addresses of the same letters, or failures to deploy the same contract. -/
inductive SameResult : Except Failure Address → Except Failure Address → Prop
  | resolved {address twin : Address} (same : SameLetters address.text twin.text) :
      SameResult (.ok address) (.ok twin)
  | rejected (contract : Contract) (cause other : Failure) :
      SameResult (.error (.deployment contract cause)) (.error (.deployment contract other))

theorem SameResult.closingEvent_kind {left right : Except Failure Address}
    (same : SameResult left right) : (closingEvent left).kind = (closingEvent right).kind := by
  cases same <;> rfl

/-- A failed deployment names the contract that failed, and alike failures the same. -/
theorem sameResult {left right : Options} {first second : Session}
    (results : Procedure.AlikeResults Procedure.AddressAlike (deployment left first)
      (deployment right second)) :
    SameResult (outcome (deployment left) first).1 (outcome (deployment right) second).1 := by
  have carried := deployment_carried left first
  have twin := deployment_carried right second
  rw [outcome, outcome]
  generalize deployment left first = reached at results carried ⊢
  generalize deployment right second = other at results twin ⊢
  cases results with
  | ok related => exact .resolved related
  | error same =>
      obtain ⟨contract, cause, _, failed⟩ := carried.failure_of_error
      obtain ⟨contract', cause', _, failed'⟩ := twin.failure_of_error
      have named := same.contract
      rw [failed, failed'] at named
      obtain rfl : contract = contract' := Option.some.inj named
      simp only [failed, failed']
      exact .rejected contract cause cause'

/-- The kinds of the events of a run whose lines are all taken. -/
theorem report_kinds {options : Options} {book : AddressBook} (seeded : options.seeds = .ok book)
    (signer : Signer) (sink : Sink)
    (takes : sink.Takes (runDeployment options signer sink).book.lines) :
    (runDeployment options signer sink).events.map Event.kind =
      (outcome (deployment options) (options.opening signer book)).2.log.map Event.kind ++
        [(closingEvent (outcome (deployment options) (options.opening signer book)).1).kind,
          "addresses_written"] := by
  rw [runDeployment_eq seeded, writeOut_book] at takes
  rw [runDeployment_eq seeded, writeOut_events, if_pos takes, Session.report_log]
  simp only [List.map_append, List.map_cons, List.map_nil, List.append_assoc]
  rfl

/-- Two runs do the same: nothing else is handed over, written or reported. -/
structure Report.Agrees (left right : Report) : Prop where
  sent : left.sent = right.sent
  written : left.written = right.written
  kinds : left.events.map Event.kind = right.events.map Event.kind
  result : SameResult left.result right.result

/-- The letter case of addresses changes neither what is deployed nor what is exported. -/
theorem agrees_up_to_letterCase {left right : Options} (alike : left.Alike right)
    {first second : Signer} (signers : first.Alike second) (sink : Sink)
    (valid : left.SeedsValid)
    (takes : sink.Takes (runDeployment left first sink).book.lines) :
    Report.Agrees (runDeployment left first sink) (runDeployment right second sink) := by
  have seeded := Options.seeds_eq valid
  have twin := Options.seeds_eq (alike.seedsValid valid)
  have results := alike.deployment_parallel _ _ (alike.opening signers)
  have sessions := results.final
  have result := sameResult results
  have lines : (runDeployment left first sink).book.lines =
      (runDeployment right second sink).book.lines := by
    rw [report_book seeded, report_book twin]
    exact sessions.book.lines_eq
  have takes' : sink.Takes (runDeployment right second sink).book.lines := lines ▸ takes
  obtain ⟨given, written⟩ := report_of_takes seeded first sink takes
  obtain ⟨given', written'⟩ := report_of_takes twin second sink takes'
  refine ⟨?_, ?_, ?_, ?_⟩
  · rw [report_sent seeded, report_sent twin, sessions.sent]
  · rw [written, written', lines]
  · rw [report_kinds seeded first sink takes, report_kinds twin second sink takes',
      result.closingEvent_kind, outcome_snd, outcome_snd, sessions.kinds]
  · rw [given, given']
    exact result

/-- The same addresses as in `capitalRun`, in small letters. -/
def smallRun : Options :=
  { capitalRun with
    deployed := .record
      [("PlonkVerifier", .text "0xabcdefabcdef0123456789abcdefabcdef012345")] }

/-- The same receipts as those of `capitalSigner`, in small letters. -/
def smallSigner : Signer :=
  { usualSigner with
    outcomes := [.accepted none
      (.mined [("contractAddress", .text "0xfedcba9876543210fedcba9876543210fedcba98")])] }

theorem capitalRun_alike : capitalRun.Alike smallRun where
  mock := rfl
  mockArguments := rfl
  gasLimit := rfl
  seeds contract := by
    cases contract with
    | plonkVerifier => exact .letters (by unfold SameLetters; decide +kernel)
    | _ => exact .refl _

theorem capitalSigner_alike : capitalSigner.Alike smallSigner := by
  have same : FieldAlike
      ("contractAddress", .text "0xFEDCBA9876543210FEDCBA9876543210FEDCBA98")
      ("contractAddress", .text "0xfedcba9876543210fedcba9876543210fedcba98") :=
    ⟨rfl, .letters (by unfold SameLetters; decide +kernel), fun other => absurd rfl other⟩
  exact .cons (.accepted none (.mined (.cons same .nil))) .nil

theorem agrees_up_to_letterCase_capital :
    capitalRun.Alike smallRun ∧ capitalSigner.Alike smallSigner ∧ capitalRun.SeedsValid ∧
      Sink.unlimited.Takes (runDeployment capitalRun capitalSigner .unlimited).book.lines ∧
      Report.Agrees (runDeployment capitalRun capitalSigner .unlimited)
        (runDeployment smallRun smallSigner .unlimited) := by
  have valid : capitalRun.SeedsValid := by decide +kernel
  exact ⟨capitalRun_alike, capitalSigner_alike, valid, rfl,
    agrees_up_to_letterCase capitalRun_alike capitalSigner_alike .unlimited valid rfl⟩

end Rollout.Run
