import Rollout.Proofs.Export
import Rollout.Proofs.LightClient.Provenance
import Rollout.Proofs.Run.Order

/-!
# Resuming a run

What a run has written out, whether it succeeded or not, serves as the environment of a later run.
The later run accepts every address in it, creates only contracts that have no line in it, links
the addresses of its lines, and writes out all of its lines again.  After a run that succeeded there
is nothing left to create.
-/

namespace Rollout

namespace AddressBook

theorem assignment_of_line {entry other : Contract × Address} (same : line entry = line other) :
    assignment entry = assignment other := by
  have first : Dotenv.parse (toDotenv ⟨[entry]⟩) = [assignment entry] := parse_toDotenv _
  have second : Dotenv.parse (toDotenv ⟨[other]⟩) = [assignment other] := parse_toDotenv _
  rw [toDotenv, lines, List.map_singleton, same] at first
  exact List.singleton_inj.mp (first.symm.trans second)

/-- A line tells for which contract an address is known, and which account it belongs to. -/
theorem lookup_of_line {book : AddressBook} (distinct : book.contracts.Nodup)
    {contract : Contract} {address : Address} (written : line (contract, address) ∈ book.lines) :
    ∃ known, book.lookup contract = some known ∧ known.lower = address.lower := by
  obtain ⟨⟨other, known⟩, member, same⟩ := List.mem_map.mp written
  obtain ⟨names, lowers⟩ := Prod.mk.inj (assignment_of_line same)
  obtain rfl : other = contract := Contract.envName_injective names
  exact ⟨known, (lookup_eq_some_iff distinct).mpr member, lowers⟩

end AddressBook

namespace LightClient

/-- A transaction creates a contract, in whichever variant and with whatever arguments. -/
def Creating (contract : Contract) (transaction : Transaction) : Prop :=
  ∃ mocked arguments gasLimit,
    Creates (Variant.ofMock mocked) arguments gasLimit contract transaction

theorem mem_libraries_keyTemplate (mocked : Bool) :
    (Variant.ofMock mocked).keyTemplate ∈ libraries :=
  (Variant.layout mocked).keyTemplate_library

/-- A transaction that creates a light client does not create a library. -/
theorem ne_of_linked {template : Template} (library : template ∈ libraries) {mocked : Bool}
    {arguments : Option Arguments} {gasLimit limit : Option Number} {transaction : Transaction}
    (creates : Creates (Variant.ofMock mocked) arguments gasLimit .lightClient transaction) :
    transaction ≠ ⟨none, template.object, limit⟩ := by
  obtain ⟨verifier, key, encoded, _, rfl⟩ := creates
  intro same
  have data : String.ofList ((Variant.ofMock mocked).linked verifier key ++ encoded) =
      template.object := (Transaction.mk.inj same).2.1
  refine Variant.linked_ne_library mocked library verifier key encoded ?_
  rw [← data, String.toList_ofList]

theorem verifier_ne_key (mocked : Bool) :
    Template.plonkVerifier.object ≠ (Variant.ofMock mocked).keyTemplate.object := by
  cases mocked <;> decide

/-- No transaction creates two contracts. -/
theorem Creating.eq {contract other : Contract} {transaction : Transaction}
    (first : Creating contract transaction) (second : Creating other transaction) :
    contract = other := by
  obtain ⟨mocked, arguments, gasLimit, first⟩ := first
  obtain ⟨mocked', arguments', gasLimit', second⟩ := second
  have verifier : Template.plonkVerifier ∈ libraries := List.mem_cons_self
  -- The libraries differ by their templates, and no light client is one of them.
  cases contract <;> cases other <;> first
    | rfl
    | exact first.elim
    | exact second.elim
    | exact absurd (congrArg Transaction.data (first.symm.trans second)) (verifier_ne_key _)
    | exact absurd (congrArg Transaction.data (second.symm.trans first)) (verifier_ne_key _)
    | exact absurd second (ne_of_linked verifier first)
    | exact absurd first (ne_of_linked verifier second)
    | exact absurd second (ne_of_linked (mem_libraries_keyTemplate _) first)
    | exact absurd first (ne_of_linked (mem_libraries_keyTemplate _) second)

theorem lookup_of_mem_missing {book : AddressBook} {contract : Contract}
    (member : contract ∈ missing book) : book.lookup contract = none := by
  rw [missing] at member
  split at member
  · contradiction
  · exact Option.isNone_iff_eq_none.mp (List.mem_filter.mp member).2

end LightClient

namespace Run

open LightClient

/-- The run that takes up configured addresses. -/
def Options.resuming (options : Options) (addresses : List (Contract × Address)) : Options :=
  { options with deployed := Configuration.toDeployed addresses }

namespace Options

variable (options : Options) (book : AddressBook)

theorem seedBook_resuming :
    (options.resuming book.canonical.entries).seedBook = book.canonical :=
  congrArg AddressBook.mk (AddressBook.seedEntries_toDeployed _)

theorem seedsValid_resuming : (options.resuming book.canonical.entries).SeedsValid :=
  fun contract _ => AddressBook.toDeployed_valid _ contract

end Options

/-- What a later run does with the text that a first one has written. -/
structure Resumes (first : Report) (again : Options) (sink : Sink) (second : Report) : Prop where
  /-- The addresses are accepted, and they are those of the first run. -/
  accepted : ∃ book, again.seeds = .ok book ∧ first.book.Rereads book
  /-- Every transaction creates a contract without a line. -/
  creates : ∀ transaction ∈ second.sent, ∃ contract,
    Creates again.variant again.arguments again.limit contract transaction ∧
      ∀ address, AddressBook.line (contract, address) ∉ first.written
  /-- No transaction creates a contract with a line. -/
  untouched : ∀ contract address, AddressBook.line (contract, address) ∈ first.written →
    ∀ transaction ∈ second.sent, ¬ Creating contract transaction
  /-- A light client is linked with the libraries that have a line. -/
  links : ∀ transaction ∈ second.sent, ∀ verifier key encoded,
    transaction.data.toList = again.variant.linked verifier key ++ encoded →
      (∀ address, AddressBook.line (.plonkVerifier, address) ∈ first.written →
        verifier.lower = address.lower) ∧
      ∀ address, AddressBook.line (.stateUpdateVK, address) ∈ first.written →
        key.lower = address.lower
  /-- No line is lost. -/
  kept : sink.Takes second.book.lines → ∀ line ∈ first.written, line ∈ second.written
  /-- After a run that gives an address, nothing is left to create. -/
  finished : ∀ address, first.result = .ok address →
    second.sent = [] ∧ (sink.Takes second.book.lines → second.result = .ok address.lowered)

section

variable {options : Options} (valid : options.SeedsValid) (signer : Signer) (sink : Sink)

include valid in
theorem lookup_of_seed {contract : Contract} {address : Address}
    (known : options.seedBook.lookup contract = some address) :
    (runDeployment options signer sink).book.lookup contract = some address := by
  refine AddressBook.lookup_of_prefix ⟨options.created signer, ?_⟩ known
  exact (book_entries valid signer sink).symm

include valid in
/-- A run creates only contracts that it has not been given. -/
theorem creates_of_sent {transaction : Transaction}
    (sent : transaction ∈ (runDeployment options signer sink).sent) :
    ∃ contract, Creates options.variant options.arguments options.limit contract transaction ∧
      options.seedBook.lookup contract = none := by
  obtain ⟨index, inside, rfl⟩ := List.mem_iff_getElem.mp sent
  have creates := sent_creates valid signer sink
  have place : index < (options.attempted signer).length := creates.length_eq ▸ inside
  have member : (options.attempted signer)[index] ∈ options.missing :=
    (List.take_sublist _ _).subset (List.filter_sublist.subset (List.getElem_mem place))
  exact ⟨_, creates.get place inside, lookup_of_mem_missing member⟩

include valid in
/-- Whatever a run links, it knows in the end. -/
theorem lookup_of_linked {transaction : Transaction}
    (sent : transaction ∈ (runDeployment options signer sink).sent)
    {verifier key : Address} {encoded : List Char}
    (data : transaction.data.toList = options.variant.linked verifier key ++ encoded) :
    (∃ known, (runDeployment options signer sink).book.lookup .plonkVerifier = some known ∧
        known.lower = verifier.lower) ∧
      ∃ known, (runDeployment options signer sink).book.lookup .stateUpdateVK = some known ∧
        known.lower = key.lower := by
  have seeded := Options.seeds_eq valid
  have traced : Traced signer options.seedBook [options.mock]
      (Procedure.final (deployment options (options.opening signer options.seedBook))) := by
    rw [deployment_eq]
    exact (Traced.start options.gasLimit).deploy List.mem_cons_self options.arguments
  rw [report_sent seeded] at sent
  rw [report_book seeded]
  obtain ⟨index, found⟩ := List.mem_iff_getElem?.mp sent
  obtain ⟨template, library, content⟩ | ⟨mocked, _, verifier', key', _, content, known⟩ :=
    traced.links index transaction found
  · rw [content] at data
    exact absurd data
      (Variant.linked_ne_library options.mock (mem_libraries_of_asked library) _ _ _)
  · obtain ⟨_, verifiers, keys⟩ := Variant.linked_inj (content.symm.trans data)
    have lower : ∀ {one other : Address}, one.lowerDigits = other.lowerDigits →
        one.lower = other.lower :=
      fun same => congrArg (fun digits => String.ofList ('0' :: 'x' :: digits)) same
    exact ⟨⟨verifier', known.1, lower verifiers⟩, ⟨key', known.2.1, lower keys⟩⟩

include valid in
theorem lookup_of_result (takes : sink.Takes (runDeployment options signer sink).book.lines)
    {address : Address} (given : (runDeployment options signer sink).result = .ok address) :
    (runDeployment options signer sink).book.lookup .lightClient = some address := by
  have seeded := Options.seeds_eq valid
  rw [(report_of_takes seeded signer sink takes).1, outcome] at given
  rw [report_book seeded]
  cases concluded : deployment options (options.opening signer options.seedBook) with
  | ok found after =>
      rw [concluded] at given
      cases given
      rw [deployment_eq] at concluded
      exact Deployer.lookup_of_deploy concluded
  | error fault after =>
      rw [concluded] at given
      contradiction

include valid in
/-- A run that is given the light client has nothing to do. -/
theorem idle_of_known {address : Address}
    (known : options.seedBook.lookup .lightClient = some address) :
    (runDeployment options signer sink).sent = [] ∧
      (sink.Takes (runDeployment options signer sink).book.lines →
        (runDeployment options signer sink).result = .ok address) := by
  have seeded := Options.seeds_eq valid
  have skipped : deployment options (options.opening signer options.seedBook) =
      .ok address ((options.opening signer options.seedBook).report
        (.contractSkipped Contract.lightClient.name address.text)) := by
    rw [deployment_eq]
    exact Deployer.deploy_known known _
  constructor
  · rw [report_sent seeded, skipped]
    rfl
  · intro takes
    rw [(report_of_takes seeded signer sink takes).1, outcome, skipped]

end

/-- A run is given the addresses that a first one knew in the end and has written out. -/
structure TakesUp (first : Report) (resumed : Options) : Prop where
  distinct : first.book.contracts.Nodup
  written : first.written = first.book.lines
  valid : resumed.SeedsValid
  seeds : resumed.seedBook = first.book.canonical

namespace TakesUp

variable {first : Report} {resumed : Options} (takesUp : TakesUp first resumed) (signer : Signer)
  (sink : Sink)

include takesUp

theorem accepted : ∃ book, resumed.seeds = .ok book ∧ first.book.Rereads book := by
  refine ⟨resumed.seedBook, Options.seeds_eq takesUp.valid, ?_⟩
  rw [takesUp.seeds]
  exact AddressBook.rereads_canonical takesUp.distinct

/-- Every line stands for a seed. -/
theorem seed_of_line {contract : Contract} {address : Address}
    (line : AddressBook.line (contract, address) ∈ first.written) :
    ∃ known, resumed.seedBook.lookup contract = some known ∧ known.lower = address.lower := by
  rw [takesUp.written] at line
  obtain ⟨known, found, same⟩ := AddressBook.lookup_of_line takesUp.distinct line
  refine ⟨known.lowered, ?_, known.lower_lowered.trans same⟩
  rw [takesUp.seeds, AddressBook.lookup_canonical, found, Option.map_some]

/-- What the run knows of a contract with a line in the end is what the line says. -/
theorem lower_of_line {contract : Contract} {address known : Address}
    (line : AddressBook.line (contract, address) ∈ first.written)
    (found : (runDeployment resumed signer sink).book.lookup contract = some known) :
    known.lower = address.lower := by
  obtain ⟨seed, given, same⟩ := takesUp.seed_of_line line
  rw [lookup_of_seed takesUp.valid signer sink given] at found
  rw [← Option.some.inj found]
  exact same

theorem creates {transaction : Transaction}
    (sent : transaction ∈ (runDeployment resumed signer sink).sent) :
    ∃ contract, Creates resumed.variant resumed.arguments resumed.limit contract transaction ∧
      ∀ address, AddressBook.line (contract, address) ∉ first.written := by
  obtain ⟨contract, created, absent⟩ := creates_of_sent takesUp.valid signer sink sent
  refine ⟨contract, created, fun address line => ?_⟩
  obtain ⟨known, given, _⟩ := takesUp.seed_of_line line
  rw [absent] at given
  contradiction

theorem untouched {contract : Contract} {address : Address}
    (line : AddressBook.line (contract, address) ∈ first.written) {transaction : Transaction}
    (sent : transaction ∈ (runDeployment resumed signer sink).sent) :
    ¬ Creating contract transaction := by
  intro creating
  obtain ⟨other, created, unwritten⟩ := takesUp.creates signer sink sent
  obtain rfl := creating.eq ⟨resumed.mock, _, _, created⟩
  exact unwritten address line

theorem links {transaction : Transaction}
    (sent : transaction ∈ (runDeployment resumed signer sink).sent) {verifier key : Address}
    {encoded : List Char}
    (data : transaction.data.toList = resumed.variant.linked verifier key ++ encoded) :
    (∀ address, AddressBook.line (.plonkVerifier, address) ∈ first.written →
        verifier.lower = address.lower) ∧
      ∀ address, AddressBook.line (.stateUpdateVK, address) ∈ first.written →
        key.lower = address.lower := by
  obtain ⟨⟨_, verifier_known, verifier_same⟩, ⟨_, key_known, key_same⟩⟩ :=
    lookup_of_linked takesUp.valid signer sink sent data
  constructor
  · intro address line
    rw [← verifier_same]
    exact takesUp.lower_of_line signer sink line verifier_known
  · intro address line
    rw [← key_same]
    exact takesUp.lower_of_line signer sink line key_known

theorem kept (takes : sink.Takes (runDeployment resumed signer sink).book.lines) {line : String}
    (member : line ∈ first.written) : line ∈ (runDeployment resumed signer sink).written := by
  have lines := (report_of_takes (Options.seeds_eq takesUp.valid) signer sink takes).2
  rw [lines, AddressBook.lines, book_entries takesUp.valid, List.map_append, takesUp.seeds]
  rw [takesUp.written] at member
  have seeded := (AddressBook.lines_canonical takesUp.distinct).mem_iff.mpr member
  exact List.mem_append_left _ seeded

theorem finished {address : Address} (known : first.book.lookup .lightClient = some address) :
    (runDeployment resumed signer sink).sent = [] ∧
      (sink.Takes (runDeployment resumed signer sink).book.lines →
        (runDeployment resumed signer sink).result = .ok address.lowered) := by
  apply idle_of_known takesUp.valid signer sink
  rw [takesUp.seeds, AddressBook.lookup_canonical, known, Option.map_some]

end TakesUp

/-- The text that a run has written, read back as the environment of a later run, is accepted, and
the later run resumes the first one: it deploys nothing again. -/
theorem resumes_from_export (options : Options) (signer : Signer) (sink : Sink)
    (valid : options.SeedsValid)
    (takes : sink.Takes (runDeployment options signer sink).book.lines) :
    ∃ addresses,
      Configuration.deployedContracts (.record [])
          (environmentOf (String.join (runDeployment options signer sink).written)) =
        .ok addresses ∧
      ∀ (again : Options) (later : Signer) (laterSink : Sink),
        Resumes (runDeployment options signer sink) (again.resuming addresses) laterSink
          (runDeployment (again.resuming addresses) later laterSink) := by
  let first := runDeployment options signer sink
  have distinct : first.book.contracts.Nodup := contracts_nodup valid signer sink
  have written : first.written = first.book.lines :=
    (report_of_takes (Options.seeds_eq valid) signer sink takes).2
  refine ⟨first.book.canonical.entries, ?_, fun again later laterSink => ?_⟩
  · rw [written]
    exact AddressBook.deployedContracts_environmentOf distinct
  · have takesUp : TakesUp first (again.resuming first.book.canonical.entries) :=
      ⟨distinct, written, again.seedsValid_resuming first.book,
        again.seedBook_resuming first.book⟩
    exact
      { accepted := takesUp.accepted
        creates := fun _ sent => takesUp.creates later laterSink sent
        untouched := fun _ _ line _ sent => takesUp.untouched later laterSink line sent
        links := fun _ sent _ _ _ data => takesUp.links later laterSink sent data
        kept := fun laterTakes _ member => takesUp.kept later laterSink laterTakes member
        finished := fun _ given => takesUp.finished later laterSink
          (lookup_of_result valid signer sink takes given) }

/-- The light client of tests with arguments that can be encoded. -/
def mendedRun : Options := { oversizedRun with mockArguments := none }

/-- After a run that cannot encode the arguments of its light client, another one takes up the
libraries. -/
theorem resumes_from_export_mended :
    oversizedRun.SeedsValid ∧
      Sink.unlimited.Takes (runDeployment oversizedRun usualSigner .unlimited).book.lines ∧
      oversizedRun.missing = [.plonkVerifier, .lightClient] ∧
      ∃ addresses,
        Configuration.deployedContracts (.record [])
            (environmentOf (String.join
              (runDeployment oversizedRun usualSigner .unlimited).written)) = .ok addresses ∧
          Resumes (runDeployment oversizedRun usualSigner .unlimited)
            (mendedRun.resuming addresses) .unlimited
            (runDeployment (mendedRun.resuming addresses) usualSigner .unlimited) := by
  have valid : oversizedRun.SeedsValid := by decide +kernel
  obtain ⟨addresses, accepted, resumes⟩ :=
    resumes_from_export oversizedRun usualSigner .unlimited valid rfl
  exact ⟨valid, rfl, by decide +kernel, addresses, accepted,
    resumes mendedRun usualSigner .unlimited⟩

end Run

end Rollout
