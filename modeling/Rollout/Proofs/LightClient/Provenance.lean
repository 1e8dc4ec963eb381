import Rollout.Proofs.LightClient.Deployment
import Rollout.Proofs.Script.Timeline

/-!
# Where linked libraries come from

One deployer may be asked for light clients of both variants, one after the other, and both
variants keep their verification key under the same contract.  A light client is therefore linked
with the key of whichever call created one first: its address comes from an earlier transaction
that created a key, but not necessarily the key of the light client's own variant.
-/

namespace Rollout

open Procedure

/-- What holds after a first step and is kept by a second one holds after both. -/
theorem Procedure.final_bind {α β : Type} {holds : Session → Prop} {first : Procedure α}
    {next : α → Procedure β} {session : Session} (head : holds (final (first session)))
    (tail : ∀ value middle, first session = .ok value middle → holds middle →
      holds (final (next value middle))) :
    holds (final ((first >>= next) session)) := by
  rw [bind_apply]
  cases result : first session with
  | error fault middle =>
      rw [result] at head
      exact head
  | ok value middle =>
      rw [result] at head
      exact tail value middle result head

theorem AddressBook.lookup_insert_of_known {book : AddressBook} {contract other : Contract}
    {known : Address} (absent : book.lookup contract = none)
    (found : book.lookup other = some known) (address : Address) :
    (book.insert contract address).lookup other = some known := by
  have apart : other ≠ contract := by
    rintro rfl
    rw [absent] at found
    contradiction
  rw [lookup_insert, if_neg apart, found]

namespace LightClient

open Broadcast

/-! ## Telling images apart -/

namespace Variant

theorem linked_ne_library (mocked : Bool) {template : Template} (library : template ∈ libraries)
    (verifier key : Address) (encoded : List Char) :
    template.object.toList ≠ (ofMock mocked).linked verifier key ++ encoded := by
  intro same
  have short : ∀ template ∈ libraries, template.object.toList.length ≤ 44 := by decide +kernel
  have bound := short template library
  have front := (layout mocked).front_length
  rw [same, (layout mocked).linked_eq] at bound
  simp only [Layout.digits, List.length_append, List.length_cons, Address.length_lowerDigits,
    front, verifierByte] at bound
  omega

theorem front_injective : Function.Injective fun mocked => (layout mocked).front := by
  intro one other same
  cases one <;> cases other <;> first | rfl | (revert same; decide)

/-- The image of a light client tells its variant and the libraries in its slots. -/
theorem linked_inj {one other : Bool} {verifier key verifier' key' : Address}
    {encoded encoded' : List Char}
    (same : (ofMock one).linked verifier key ++ encoded =
      (ofMock other).linked verifier' key' ++ encoded') :
    one = other ∧ verifier.lowerDigits = verifier'.lowerDigits ∧
      key.lowerDigits = key'.lowerDigits := by
  rw [(layout one).linked_eq, (layout other).linked_eq] at same
  simp only [Layout.digits, List.cons_append, List.cons.injEq, true_and, List.append_assoc] at same
  have first := (layout one).middle_length
  have second := (layout other).middle_length
  obtain ⟨fronts, same⟩ := List.append_inj same
    ((layout one).front_length.trans (layout other).front_length.symm)
  obtain ⟨verifiers, same⟩ := List.append_inj same
    (verifier.length_lowerDigits.trans verifier'.length_lowerDigits.symm)
  obtain ⟨_, same⟩ := List.append_inj same (by rw [fronts] at first; omega)
  obtain ⟨keys, _⟩ := List.append_inj same
    (key.length_lowerDigits.trans key'.length_lowerDigits.symm)
  exact ⟨front_injective fronts, verifiers, keys⟩

end Variant

/-! ## Tracing libraries -/

/-- The transaction with an index has created a contract from a template. -/
structure CreatedFrom (signer : Signer) (sent : List Transaction) (template : Template)
    (address : Address) (index : Nat) : Prop where
  /-- The transaction creates a contract, and its data is the template. -/
  handed : ∃ transaction, sent[index]? = some transaction ∧ transaction.receiver = none ∧
    transaction.data = template.object
  /-- The transaction took effect, and its receipt holds the address. -/
  created : signer.created? (index + 1) = some address

/-- A key is known from the beginning or was created by one of the first transactions, for a call
for one of some variants. -/
def KeyTraced (signer : Signer) (book : AddressBook) (asked : List Bool)
    (sent : List Transaction) (bound : Nat) (key : Address) : Prop :=
  book.lookup .stateUpdateVK = some key ∨
    ∃ mocked ∈ asked, ∃ index < bound,
      CreatedFrom signer sent (Variant.ofMock mocked).keyTemplate key index

/-- The libraries that are deployed for calls for some variants. -/
def askedLibraries (asked : List Bool) : List Template :=
  .plonkVerifier :: asked.map fun mocked => (Variant.ofMock mocked).keyTemplate

theorem mem_libraries_of_asked {asked : List Bool} {template : Template}
    (member : template ∈ askedLibraries asked) : template ∈ libraries := by
  rcases List.mem_cons.mp member with rfl | key
  · exact List.mem_cons_self
  · obtain ⟨mocked, _, rfl⟩ := List.mem_map.mp key
    exact (Variant.layout mocked).keyTemplate_library

/-- A transaction creates a library, or a light client that is linked with known libraries. -/
def Links (asked : List Bool) (book : AddressBook) (transaction : Transaction)
    (traced : Address → Prop) : Prop :=
  (∃ template ∈ askedLibraries asked, transaction.data = template.object) ∨
    ∃ mocked ∈ asked, ∃ verifier key encoded,
      transaction.data.toList = (Variant.ofMock mocked).linked verifier key ++ encoded ∧
        book.lookup .plonkVerifier = some verifier ∧ book.lookup .stateUpdateVK = some key ∧
        traced key

/-- The libraries that a session knows and has linked can be traced. -/
structure Traced (signer : Signer) (book : AddressBook) (asked : List Bool) (session : Session) :
    Prop where
  /-- The session has the signer. -/
  unchanged : session.signer = signer
  /-- The known key can be traced. -/
  key : ∀ key, session.book.lookup .stateUpdateVK = some key →
    KeyTraced signer book asked session.sent session.sent.length key
  /-- The linked libraries are the known ones, and the key can be traced to a transaction before
  the one that links it. -/
  links : ∀ index transaction, session.sent[index]? = some transaction →
    Links asked session.book transaction (KeyTraced signer book asked session.sent index)

section

variable {signer : Signer} {book : AddressBook} {asked : List Bool}

theorem CreatedFrom.append {sent : List Transaction} {template : Template} {address : Address}
    {index : Nat} (created : CreatedFrom signer sent template address index)
    (more : List Transaction) : CreatedFrom signer (sent ++ more) template address index := by
  obtain ⟨transaction, found, content⟩ := created.handed
  have inside := (List.getElem?_eq_some_iff.mp found).1
  exact ⟨⟨transaction, by rw [List.getElem?_append_left inside, found], content⟩,
    created.created⟩

theorem KeyTraced.append {sent : List Transaction} {bound : Nat} {key : Address}
    (traced : KeyTraced signer book asked sent bound key) (more : List Transaction)
    {later : Nat} (le : bound ≤ later) :
    KeyTraced signer book asked (sent ++ more) later key := by
  refine traced.imp_right ?_
  rintro ⟨mocked, member, index, inside, created⟩
  exact ⟨mocked, member, index, inside.trans_le le, created.append more⟩

theorem Links.imp {before after : AddressBook} {transaction : Transaction}
    {traced followed : Address → Prop} (links : Links asked before transaction traced)
    (known : ∀ contract address, before.lookup contract = some address →
      after.lookup contract = some address)
    (follow : ∀ key, traced key → followed key) :
    Links asked after transaction followed := by
  refine links.imp_right ?_
  rintro ⟨mocked, member, verifier, key, encoded, content, verifier_known, key_known, origin⟩
  exact ⟨mocked, member, verifier, key, encoded, content, known _ _ verifier_known,
    known _ _ key_known, follow key origin⟩

namespace Traced

variable {before after : Session}

theorem start (gasLimit : Option Number) :
    Traced signer book asked (.start signer gasLimit book) :=
  ⟨rfl, fun _ known => .inl known, by simp [Session.start]⟩

/-- Reports, tokens and announcements do not matter. -/
theorem keep (traced : Traced signer book asked before) (same : after.signer = before.signer)
    (sent : after.sent = before.sent) (entries : after.book = before.book) :
    Traced signer book asked after where
  unchanged := same.trans traced.unchanged
  key := by
    rw [sent, entries]
    exact traced.key
  links := by
    rw [sent, entries]
    exact traced.links

/-- A transaction is handed over that creates a library or links the known ones. -/
theorem hand (traced : Traced signer book asked before) {transaction : Transaction}
    (links : Links asked before.book transaction fun _ => True) (events : List Event) :
    Traced signer book asked (before.broadcast transaction events) where
  unchanged := traced.unchanged
  key := fun key known => (traced.key key known).append _ (by simp)
  links := by
    intro index other found
    rw [Session.broadcast_sent] at found
    -- Earlier transactions keep their links; the new one links what is known now.
    by_cases early : index < before.sent.length
    · rw [List.getElem?_append_left early] at found
      exact (traced.links index other found).imp (fun _ _ known => known)
        fun key origin => origin.append _ (Nat.le_refl index)
    · have inside := (List.getElem?_eq_some_iff.mp found).1
      simp only [List.length_append, List.length_singleton] at inside
      obtain rfl : index = before.sent.length := by omega
      rw [List.getElem?_concat_length] at found
      obtain rfl := Option.some.inj found
      refine links.imp_right ?_
      rintro ⟨mocked, member, verifier, key, encoded, content, verifier_known, key_known, -⟩
      exact ⟨mocked, member, verifier, key, encoded, content, verifier_known, key_known,
        (traced.key key key_known).append _ (Nat.le_refl _)⟩

/-- An address is entered for an absent contract; that of a key has just been created. -/
theorem enter (traced : Traced signer book asked before) {contract : Contract}
    {address : Address} (absent : before.book.lookup contract = none)
    (origin : contract = .stateUpdateVK →
      KeyTraced signer book asked before.sent before.sent.length address) :
    Traced signer book asked (before.enter contract address) where
  unchanged := traced.unchanged
  key := by
    intro key known
    rw [Session.enter_book, AddressBook.lookup_insert] at known
    split at known
    · next same =>
        obtain rfl := Option.some.inj known
        exact origin same.symm
    · exact traced.key key known
  links := fun index transaction found =>
    (traced.links index transaction found).imp
      (fun _ _ known => AddressBook.lookup_insert_of_known absent known address)
      fun _ followed => followed

/-- A failure leaves a deployment. -/
theorem leave (traced : Traced signer book asked before) (contract : Contract) (fault : Fault) :
    Traced signer book asked (Deployer.leaving contract fault before).2 := by
  obtain ⟨_, _, ends⟩ | ⟨_, _, ends⟩ | ⟨_, ends⟩ | ⟨_, _, ends⟩ :=
    Deployer.leaving_cases contract fault before
  all_goals
    rw [ends]
    exact traced.keep rfl rfl rfl

/-- A contract is created and entered, or fails. -/
theorem carryOut (traced : Traced signer book asked before) {contract : Contract}
    {image : CreationImage} {arguments : Option Arguments} {data : String}
    (absent : before.book.lookup contract = none)
    (encoded : creationData image arguments = .ok data)
    (links : Links asked before.book (creation before data) fun _ => True)
    (key : contract = .stateUpdateVK →
      ∃ mocked ∈ asked, data = (Variant.ofMock mocked).keyTemplate.object) :
    Traced signer book asked
      (final (Deployer.closing contract
        (Deployer.perform contract (createContract image arguments) before))) := by
  obtain ⟨events, _, ⟨address, created, result⟩ | ⟨failure, _, _, result⟩⟩ :=
    Deployer.perform_createContract_cases encoded contract before
  · have handed := traced.hand links events
    rw [result]
    refine (handed.enter absent fun same => .inr ?_).keep rfl rfl rfl
    obtain ⟨mocked, member, content⟩ := key same
    refine ⟨mocked, member, before.sent.length, by simp,
      ⟨creation before data, ?_, rfl, content⟩, ?_⟩
    · rw [Session.broadcast_sent, List.getElem?_concat_length]
    · rw [← traced.unchanged]
      exact created
  · rw [result]
    have failed : Traced signer book asked
        (before.broadcast (creation before data) events).draw :=
      (traced.hand links events).keep rfl rfl rfl
    exact failed.leave contract ⟨before.issued, failure⟩

theorem deployLibrary (traced : Traced signer book asked before) {contract : Contract}
    {template : Template} (library : template ∈ askedLibraries asked)
    (key : contract = .stateUpdateVK →
      ∃ mocked ∈ asked, template = (Variant.ofMock mocked).keyTemplate) :
    Traced signer book asked (final (deployLibrary contract template before)) := by
  have known := mem_libraries_of_asked library
  rw [LightClient.deployLibrary, resolve_library known, adopt_ok, pure_bind,
    Deployer.deployImage]
  cases lookup : before.book.lookup contract with
  | some address =>
      rw [Deployer.deploy_known lookup]
      exact traced.keep rfl rfl rfl
  | none =>
      let opened := before.report (.contractStarted contract.name)
      have absent : opened.book.lookup contract = none := lookup
      have opening : Traced signer book asked opened := traced.keep rfl rfl rfl
      rw [Deployer.deploy_absent lookup]
      refine opening.carryOut absent (creationData_library known) (.inl ⟨template, library, rfl⟩) ?_
      intro same
      obtain ⟨mocked, member, rfl⟩ := key same
      exact ⟨mocked, member, rfl⟩

theorem deployAndLink (traced : Traced signer book asked before) {mocked : Bool}
    (member : mocked ∈ asked) :
    Traced signer book asked (final (deployAndLink (Variant.ofMock mocked) before)) := by
  have layout := Variant.layout mocked
  rw [LightClient.deployAndLink]
  have library : (Variant.ofMock mocked).keyTemplate ∈ askedLibraries asked :=
    List.mem_cons_of_mem _ (List.mem_map_of_mem member)
  refine final_bind (traced.deployLibrary List.mem_cons_self (by simp))
    fun verifier middle _ next => ?_
  refine final_bind (next.deployLibrary library fun _ => ⟨mocked, member, rfl⟩)
    fun key later _ last => ?_
  rw [linkBoth_apply layout verifier key later]
  exact last.keep rfl rfl rfl

/-- A call for a light client of one of the variants leaves the libraries traced. -/
theorem deploy (traced : Traced signer book asked before) {mocked : Bool}
    (member : mocked ∈ asked) (arguments : Option Arguments) :
    Traced signer book asked
      (final (Deployer.deploy .lightClient
        (create (Variant.ofMock mocked) arguments) before)) := by
  have layout := Variant.layout mocked
  cases lookup : before.book.lookup .lightClient with
  | some address =>
      rw [Deployer.deploy_known lookup]
      exact traced.keep rfl rfl rfl
  | none =>
      have opening : Traced signer book asked (opened before) := traced.keep rfl rfl rfl
      have linked := opening.deployAndLink member
      have absent : (opened before).book.lookup .lightClient = none := lookup
      have carried : Carried (Variant.ofMock mocked) arguments
          (unknown (opened before).book [.plonkVerifier, .stateUpdateVK]) (opened before)
          (LightClient.deployAndLink (Variant.ofMock mocked) (opened before)) :=
        deployAndLink_carried layout (opened before)
      rw [Deployer.deploy_absent lookup, create, Deployer.perform_bind, ← opened]
      cases result : LightClient.deployAndLink (Variant.ofMock mocked) (opened before) with
      | error fault after =>
          rw [result] at linked
          exact linked.leave .lightClient fault
      | ok artifact after =>
          rw [result] at linked carried
          obtain ⟨verifier, key, rfl, verifier_known, key_known⟩ :=
            lookup_of_deployAndLink layout result
          -- Both libraries are known by now, and the light client is still absent.
          have still : after.book.lookup .lightClient = none := by
            rw [carried.progress_of_ok.lookup_of_not_mem (by simp [unknown]), absent]
          simp only [layout.resolve_complete verifier key, adopt_ok, pure_bind]
          cases encoding : encodeArguments arguments with
          | ok encoded =>
              refine linked.carryOut still (layout.creationData_image verifier key encoding)
                (.inr ⟨mocked, member, verifier, key, encoded, ?_, verifier_known, key_known,
                  trivial⟩) (by simp)
              exact String.toList_ofList
          | error fault =>
              rw [Deployer.perform_apply,
                createContract_unencoded (creationData_unencoded encoding _)]
              have failed : Traced signer book asked after.draw := linked.keep rfl rfl rfl
              exact failed.leave .lightClient ⟨after.issued, .argument fault⟩

end Traced

end

/-! ## Calls for light clients -/

/-- A call for a light client of one of the two variants. -/
inductive Order where
  /-- The light client of production. -/
  | production
  /-- The light client of tests. -/
  | mock (arguments : Option MockArguments)

namespace Order

/-- Whether the light client of tests is asked for. -/
def mocked : Order → Bool
  | production => false
  | mock _ => true

/-- The constructor arguments. -/
def arguments : Order → Option Arguments
  | production => none
  | mock arguments => some (mockConstructorArguments arguments)

/-- The call as an action. -/
def action : Order → Action
  | production => .production
  | mock arguments => .mock arguments

/-- The procedure of a call. -/
def procedure (order : Order) : Procedure Address :=
  Deployer.deploy .lightClient (create (Variant.ofMock order.mocked) order.arguments)

theorem perform_action (order : Order) :
    order.action.perform = Action.deployed order.procedure := by
  cases order <;> rw [action, Action.perform] <;> rfl

theorem session_perform (order : Order) (session : Session) :
    (session.perform [order.action]).2 = final (order.procedure session) := by
  simp only [Session.perform, Action.performAll, perform_action, Action.deployed, bind_apply]
  cases order.procedure session <;> rfl

/-- A call enters what it creates behind the known contracts. -/
theorem contracts_procedure (order : Order) (session : Session) :
    (final (order.procedure session)).book.contracts =
      session.book.contracts ++
        (creations (attempt session.signer order.arguments) (session.sent.length + 1)
          (missing session.book)).map Prod.fst := by
  obtain ⟨_, _, _, book⟩ :=
    (deploy_carried (Variant.layout order.mocked) order.arguments session).effect
  rw [AddressBook.contracts, procedure, book, List.map_append]
  rfl

end Order

/-- The session in which calls for light clients end, each made whatever became of the ones
before. -/
def afterOrders (signer : Signer) (gasLimit : Option Number) (book : AddressBook)
    (orders : List Order) : Session :=
  (Session.start signer gasLimit book).afterEach (orders.map Order.action)

theorem Traced.afterEach {signer : Signer} {book : AddressBook} {asked : List Bool}
    {session : Session} (traced : Traced signer book asked session) {orders : List Order}
    (members : ∀ order ∈ orders, order.mocked ∈ asked) :
    Traced signer book asked (session.afterEach (orders.map Order.action)) := by
  induction orders generalizing session with
  | nil => exact traced
  | cons order rest ih =>
      rw [List.forall_mem_cons] at members
      refine ih ?_ members.2
      rw [order.session_perform]
      exact traced.deploy members.1 order.arguments

/-! ### Calls for both variants -/

/-- A light client of production whose libraries are known is handed over next. -/
theorem sent_production {session : Session} (libraries : missing session.book = [.lightClient]) :
    ∃ verifier key, (final (Order.production.procedure session)).sent =
      session.sent ++
        [⟨none, String.ofList (production.linked verifier key), session.gasLimit⟩] := by
  have carried := deploy_carried productionLayout none session
  rw [libraries] at carried
  obtain ⟨transactions, sent, creates, _⟩ := carried.effect
  have unconstructed : isSent none .lightClient = true := rfl
  have handed : attempted session.signer none (session.sent.length + 1) [.lightClient] =
      [.lightClient] := by
    simp [attempted, unconstructed]
  rw [handed] at creates
  obtain ⟨transaction, _, ⟨verifier, key, encoded, given, rfl⟩, rest, rfl⟩ :=
    List.forall₂_cons_left_iff.mp creates
  obtain rfl := List.forall₂_nil_left_iff.mp rest
  obtain rfl : [] = encoded := Except.ok.inj given
  rw [List.append_nil] at sent
  exact ⟨verifier, key, sent⟩

/-- Where only light clients of tests have been asked for, no key of production is created. -/
theorem not_created_of_tests {signer : Signer} {book : AddressBook} {session : Session}
    (traced : Traced signer book [true] session) {address : Address} {index : Nat} :
    ¬ CreatedFrom signer session.sent .stateUpdateVK address index := by
  intro created
  obtain ⟨transaction, found, _, content⟩ := created.handed
  obtain ⟨template, library, same⟩ | ⟨mocked, _, verifier, key, encoded, same, _⟩ :=
    traced.links index transaction found
  · have others : ∀ template ∈ askedLibraries [true],
        Template.stateUpdateVK.object ≠ template.object := by
      decide
    exact others template library (content.symm.trans same)
  · rw [content] at same
    exact Variant.linked_ne_library mocked (by decide) verifier key encoded same

/-- A signer that takes two transactions and refuses the third. -/
def busySigner : Signer :=
  { address := Signer.usualAddress
    chainId := Signer.usualChainId
    connected := true
    outcomes := [.usual, .usual, .refused "busy"] }

theorem creations_busy (arguments : Option Arguments) :
    (creations (attempt busySigner arguments) 1
      [.plonkVerifier, .stateUpdateVK, .lightClient]).map Prod.fst =
        [.plonkVerifier, .stateUpdateVK] := by
  obtain ⟨verifier, first⟩ : ∃ address, busySigner.created? 1 = some address :=
    Option.isSome_iff_exists.mp (by decide +kernel)
  obtain ⟨key, second⟩ : ∃ address, busySigner.created? 2 = some address :=
    Option.isSome_iff_exists.mp (by decide +kernel)
  have third : attempt busySigner arguments .lightClient 3 = none := by
    have refused : busySigner.created? 3 = none := rfl
    rw [attempt, refused, ite_self]
  have verifier_made : attempt busySigner arguments .plonkVerifier 1 = some verifier := first
  have key_made : attempt busySigner arguments .stateUpdateVK 2 = some key := second
  simp [creations, verifier_made, key_made, third]

theorem contracts_busy (order : Order) {session : Session}
    (signer : session.signer = busySigner) (silent : session.sent = [])
    (empty : session.book = .empty) :
    (final (order.procedure session)).book.contracts = [.plonkVerifier, .stateUpdateVK] := by
  rw [order.contracts_procedure, signer, silent, empty]
  exact creations_busy order.arguments

theorem missing_of_contracts {book : AddressBook}
    (contracts : book.contracts = [.plonkVerifier, .stateUpdateVK]) :
    missing book = [.lightClient] := by
  have known : ∀ contract, (book.lookup contract).isNone =
      decide (contract ∉ [Contract.plonkVerifier, .stateUpdateVK]) := by
    intro contract
    rw [Bool.eq_iff_iff, decide_eq_true_iff, Option.isNone_iff_eq_none,
      AddressBook.lookup_eq_none_iff, contracts]
  have absent : book.lookup .lightClient = none := by
    rw [AddressBook.lookup_eq_none_iff, contracts]
    decide
  rw [missing_of_absent absent]
  simp only [unknown, known]
  decide

/-- The light client of tests fails when both its libraries are deployed; then that of production is
asked for. -/
def mixedOrders : List Order := [.mock none, .production]

/-- The session after the first of these calls. -/
def mixedMiddle : Session := final ((Order.mock none).procedure (.start busySigner none .empty))

theorem mixedMiddle_traced : Traced busySigner .empty [true] mixedMiddle :=
  (Traced.start none).deploy List.mem_cons_self _

/-- The second call hands over the last transaction. -/
theorem sent_mixed :
    ∃ verifier key, (afterOrders busySigner none .empty mixedOrders).sent =
      mixedMiddle.sent ++
        [⟨none, String.ofList (production.linked verifier key), mixedMiddle.gasLimit⟩] := by
  have calls : ∀ first second : Order, ∀ session : Session,
      session.afterEach ([first, second].map Order.action) =
        final (second.procedure (final (first.procedure session))) := by
    intro first second session
    simp only [List.map_cons, List.map_nil, Session.afterEach, Order.session_perform]
  rw [afterOrders, mixedOrders, calls]
  exact sent_production (missing_of_contracts (contracts_busy (.mock none) rfl rfl rfl))

/-- Every light client of production is linked with a key that an earlier transaction has created
from the template of production. -/
def LinksProductionKeys (signer : Signer) (sent : List Transaction) : Prop :=
  ∀ index transaction verifier key, sent[index]? = some transaction →
    transaction.data.toList = production.linked verifier key →
      ∃ earlier < index, ∃ created,
        CreatedFrom signer sent .stateUpdateVK created earlier ∧ created.lower = key.lower

/-- After the libraries of the light client of tests have been deployed and the light client itself
has failed, the light client of production is linked with the key of tests. -/
theorem production_linked_with_tests_key :
    AddressBook.lookup .empty .stateUpdateVK = none ∧
      ¬ LinksProductionKeys busySigner (afterOrders busySigner none .empty mixedOrders).sent := by
  refine ⟨rfl, fun links => ?_⟩
  obtain ⟨verifier, key, sent⟩ := sent_mixed
  rw [sent] at links
  obtain ⟨earlier, before, created, source, _⟩ :=
    links mixedMiddle.sent.length _ verifier key List.getElem?_concat_length String.toList_ofList
  obtain ⟨transaction, found, content⟩ := source.handed
  rw [List.getElem?_append_left before] at found
  exact not_created_of_tests mixedMiddle_traced ⟨⟨transaction, found, content⟩, source.created⟩

/-- A light client of production is linked with a key that an earlier transaction has created for
one of the calls, from the template of that call's variant. -/
theorem links_key_created_for_some_call (signer : Signer) (gasLimit : Option Number)
    (book : AddressBook) (orders : List Order)
    (unkeyed : book.lookup .stateUpdateVK = none) (index : Nat) (transaction : Transaction)
    (handed : (afterOrders signer gasLimit book orders).sent[index]? = some transaction)
    (verifier key : Address)
    (data : transaction.data.toList = production.linked verifier key) :
    ∃ order ∈ orders, ∃ earlier < index, ∃ created,
      CreatedFrom signer (afterOrders signer gasLimit book orders).sent
        (Variant.ofMock order.mocked).keyTemplate created earlier ∧
        created.lower = key.lower := by
  have start : Traced signer book (orders.map Order.mocked) (.start signer gasLimit book) :=
    .start gasLimit
  have traced := start.afterEach fun order member => List.mem_map_of_mem member
  have image : transaction.data.toList = (Variant.ofMock false).linked verifier key ++ [] := by
    rw [data, List.append_nil]
    rfl
  obtain ⟨template, library, content⟩ | ⟨_, _, linked, created, _, content, _, _, origin⟩ :=
    traced.links index transaction handed
  · rw [content] at image
    exact absurd image
      (Variant.linked_ne_library false (mem_libraries_of_asked library) verifier key [])
  · obtain ⟨_, _, keys⟩ := Variant.linked_inj (content.symm.trans image)
    obtain known | ⟨mocked, member, earlier, before, source⟩ := origin
    · rw [unkeyed] at known
      contradiction
    · obtain ⟨order, given, rfl⟩ := List.mem_map.mp member
      exact ⟨order, given, earlier, before, created, source, by rw [Address.lower, keys]; rfl⟩

theorem links_key_created_for_some_call_mixed :
    AddressBook.lookup .empty .stateUpdateVK = none ∧
      ∃ index transaction verifier key,
        (afterOrders busySigner none .empty mixedOrders).sent[index]? = some transaction ∧
          transaction.data.toList = production.linked verifier key ∧
          ∃ order ∈ mixedOrders, ∃ earlier < index, ∃ created,
            CreatedFrom busySigner (afterOrders busySigner none .empty mixedOrders).sent
              (Variant.ofMock order.mocked).keyTemplate created earlier ∧
              created.lower = key.lower := by
  obtain ⟨verifier, key, sent⟩ := sent_mixed
  have last : (afterOrders busySigner none .empty mixedOrders).sent[mixedMiddle.sent.length]? =
      some ⟨none, String.ofList (production.linked verifier key), mixedMiddle.gasLimit⟩ := by
    rw [sent, List.getElem?_concat_length]
  exact ⟨rfl, _, _, verifier, key, last, String.toList_ofList,
    links_key_created_for_some_call busySigner none .empty mixedOrders rfl _ _ last verifier key
      String.toList_ofList⟩

end LightClient

end Rollout
