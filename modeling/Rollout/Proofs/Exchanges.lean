import Rollout.Proofs.Abi.Digits
import Rollout.Proofs.Creation
import Rollout.Run

/-!
# Exchanges with a signer

A signer is asked for contracts and for calls, one after the other, whatever becomes of each.  A
creation whose data cannot be put together fails without a trace.  Every other request hands over
one transaction, which meets the next outcome that the signer has; the events and the result tell
how far it came.
-/

namespace Rollout.Broadcast

open Procedure

/-! ## Requests -/

/-- What a signer is asked for. -/
inductive Request where
  /-- Create a contract. -/
  | create (image : CreationImage) (arguments : Option Arguments)
  /-- Send data to a contract. -/
  | call (receiver data : String)

/-- What a request gives. -/
inductive Answer where
  /-- The address of a new contract. -/
  | address (value : Value)
  /-- The receipt of a call. -/
  | receipt (receipt : Receipt)

/-- What a request came to: its result, its events and its transactions. -/
structure Exchange where
  result : Except Failure Answer
  events : List Event
  sent : List Transaction

namespace Request

/-- The receiver of the transaction. -/
def receiver? : Request → Option String
  | create .. => none
  | call receiver _ => some receiver

/-- The contract that the transaction is for. -/
def contractName? : Request → Option String
  | create image _ => some image.contractName
  | call .. => none

/-- Carry out a request. -/
def perform : Request → Procedure Answer
  | create image arguments => do return .address (← createContract image arguments)
  | call receiver data => do return .receipt (← send (some receiver) data none)

/-- Carry out a request in a session and keep what it adds. -/
def exchange (request : Request) (session : Session) : Exchange × Session :=
  let (result, later) := Run.outcome request.perform session
  ({ result
     events := later.log.drop session.log.length
     sent := later.sent.drop session.sent.length }, later)

/-- The data of the transaction.  For a creation it is the bytecode, which is a mark in either
letter case with pairs of hexadecimal digits, in small letters and followed by the encoded
arguments. -/
inductive Transmits : Request → String → Prop
  | create {image : CreationImage} {arguments : Option Arguments} {mark : Char}
      {digits encoded : List Char} (shape : image.bytecode.toList = '0' :: mark :: digits)
      (marked : mark = 'x' ∨ mark = 'X') (hex : ∀ c ∈ digits, Text.isHexDigit c = true)
      (even : digits.length % 2 = 0) (encodes : encodeArguments arguments = .ok encoded) :
      Transmits (.create image arguments)
        (String.ofList ('0' :: 'x' :: (digits.map Text.lowerHex ++ encoded)))
  | call (receiver data : String) : Transmits (.call receiver data) data

/-- What a receipt answers to a request: the address in it, which must be given, or all of it. -/
inductive Answers : Request → Receipt → Answer → Prop
  | create {image : CreationImage} {arguments : Option Arguments} {receipt : Receipt}
      (given : (receipt.field "contractAddress").isGiven = true) :
      Answers (.create image arguments) receipt (.address (receipt.field "contractAddress"))
  | call {receiver data : String} {receipt : Receipt} :
      Answers (.call receiver data) receipt (.receipt receipt)

end Request

/-- Carry out requests one after the other, past those that fail. -/
def exchanges : List Request → Session → List Exchange × Session
  | [], session => ([], session)
  | request :: rest, session =>
      let (first, later) := request.exchange session
      let (others, last) := exchanges rest later
      (first :: others, last)

/-! ## Rules of an exchange -/

/-- Nothing is handed over or reported, and the request fails. -/
structure Exchange.Refused (exchange : Exchange) : Prop where
  sent : exchange.sent = []
  events : exchange.events = []
  result : ∃ failure, exchange.result = .error failure

/-- One transaction is handed over, the n-th of the signer; it is reported when it is accepted and
again, under the same hash, when it is confirmed. -/
structure Exchange.Sends (exchange : Exchange) (signer : Signer) (gasLimit : Option Number)
    (n : Nat) (request : Request) (data : String) : Prop where
  sent : exchange.sent = [⟨request.receiver?, data, gasLimit⟩]
  refused : (∀ hash, ¬signer.Accepts n hash) → exchange.events = []
  unconfirmed : ∀ hash, signer.Accepts n hash →
    (∀ receipt, ¬signer.Confirms n hash receipt) →
      exchange.events = [sentEvent request.receiver? request.contractName? data hash]
  confirmed : ∀ hash receipt, signer.Confirms n hash receipt →
    exchange.events =
      [sentEvent request.receiver? request.contractName? data hash, confirmedEvent hash receipt]
  resolves : ∀ answer, exchange.result = .ok answer ↔
    ∃ hash receipt, signer.Confirms n hash receipt ∧ request.Answers receipt answer

/-- The exchanges of requests from the n-th transaction on.  Only requests that hand over a
transaction use up outcomes of the signer. -/
inductive Follows (signer : Signer) (gasLimit : Option Number) :
    Nat → List Request → List Exchange → Prop
  | done (n : Nat) : Follows signer gasLimit n [] []
  | refused {n : Nat} {request : Request} {rest : List Request} {exchange : Exchange}
      {others : List Exchange} (unready : ∀ data, ¬request.Transmits data)
      (refused : exchange.Refused) (follows : Follows signer gasLimit n rest others) :
      Follows signer gasLimit n (request :: rest) (exchange :: others)
  | sends {n : Nat} {request : Request} {rest : List Request} {exchange : Exchange}
      {others : List Exchange} {data : String} (transmits : request.Transmits data)
      (sends : exchange.Sends signer gasLimit n request data)
      (follows : Follows signer gasLimit (n + 1) rest others) :
      Follows signer gasLimit n (request :: rest) (exchange :: others)

/-- A session after an exchange: it has grown by what was reported and handed over. -/
structure Exchange.Extends (exchange : Exchange) (session later : Session) : Prop where
  signer : later.signer = session.signer
  gasLimit : later.gasLimit = session.gasLimit
  log : later.log = session.log ++ exchange.events
  sent : later.sent = session.sent ++ exchange.sent

/-! ## One request -/

theorem creationData_eq_ok {image : CreationImage} {arguments : Option Arguments} {data : String} :
    creationData image arguments = .ok data ↔
      (Request.create image arguments).Transmits data := by
  simp only [creationData]
  constructor
  · intro encoded
    obtain ⟨tail, encodes, encoded⟩ := bind_eq_ok.mp encoded
    obtain ⟨code, read, encoded⟩ := bind_eq_ok.mp encoded
    obtain ⟨_, mark, digits, same, shape, marked, hex, even, rfl⟩ := Abi.dataDigits_eq_ok.mp read
    cases same
    rw [← pure_eq_ok.mp encoded]
    exact .create shape marked hex even encodes
  · rintro (⟨shape, marked, hex, even, encodes⟩ | _)
    have read := Abi.dataDigits_eq_ok.mpr ⟨_, _, _, rfl, shape, marked, hex, even, rfl⟩
    exact bind_eq_ok.mpr ⟨_, encodes, bind_eq_ok.mpr ⟨_, read, rfl⟩⟩

theorem isGiven_contractAddress (receipt : Receipt) :
    receipt.contractAddress.isGiven = (receipt.field "contractAddress").isGiven := by
  rw [Receipt.contractAddress]
  cases receipt.field "contractAddress" <;> rfl

theorem contractAddress_of_given {receipt : Receipt}
    (given : (receipt.field "contractAddress").isGiven = true) :
    receipt.contractAddress = receipt.field "contractAddress" := by
  rw [Receipt.contractAddress]
  cases address : receipt.field "contractAddress" with
  | null =>
      rw [address] at given
      contradiction
  | _ => rfl

theorem Request.Answers.eq {request : Request} {receipt : Receipt} {first second : Answer}
    (answers : request.Answers receipt first) (again : request.Answers receipt second) :
    first = second := by
  cases answers <;> cases again <;> rfl

namespace Request

variable {request : Request} {data : String} {session later : Session}

theorem perform_unready (unready : ∀ data, ¬request.Transmits data) (session : Session) :
    ∃ fault, request.perform session = .error fault session.draw := by
  cases request with
  | create image arguments =>
      obtain ⟨fault, unencoded⟩ : ∃ fault, creationData image arguments = .error fault := by
        rw [exists_error_iff]
        rintro ⟨data, encoded⟩
        exact unready data (creationData_eq_ok.mp encoded)
      simp only [perform, bind_apply, createContract_unencoded unencoded]
      exact ⟨_, rfl⟩
  | call receiver data => exact absurd (.call receiver data) (unready data)

theorem perform_unsent (transmits : request.Transmits data) {fault : Fault}
    (unsent : send request.receiver? data request.contractName? session = .error fault later) :
    request.perform session = .error fault later := by
  cases request with
  | create image arguments =>
      simp only [perform, bind_apply,
        createContract_unsent (creationData_eq_ok.mpr transmits) unsent]
  | call receiver data =>
      cases transmits
      simp only [receiver?, contractName?] at unsent
      simp only [perform, bind_apply, unsent]

theorem perform_sent (transmits : request.Transmits data) {receipt : Receipt}
    (sent : send request.receiver? data request.contractName? session = .ok receipt later) :
    (∃ answer, request.Answers receipt answer ∧ request.perform session = .ok answer later) ∨
      (∀ answer, ¬request.Answers receipt answer) ∧
        ∃ fault, request.perform session = .error fault later.draw := by
  cases request with
  | create image arguments =>
      have encoded := creationData_eq_ok.mpr transmits
      cases given : (receipt.field "contractAddress").isGiven with
      | true =>
          refine .inl ⟨_, .create given, ?_⟩
          have address := (isGiven_contractAddress receipt).trans given
          simp only [perform, bind_apply, createContract_sent encoded sent address, pure_apply,
            contractAddress_of_given given]
      | false =>
          have missing := (isGiven_contractAddress receipt).trans given
          have failed := createContract_unaddressed encoded sent missing
          refine .inr ⟨?_, _, by simp only [perform, bind_apply, failed]; rfl⟩
          rintro _ (⟨address⟩ | _)
          rw [given] at address
          contradiction
  | call receiver data =>
      cases transmits
      simp only [receiver?, contractName?] at sent
      exact .inl ⟨_, .call, by simp only [perform, bind_apply, sent, pure_apply]⟩

theorem exchange_eq_error {fault : Fault} {events : List Event} {sent : List Transaction}
    (failed : request.perform session = .error fault later)
    (logged : later.log = session.log ++ events) (handed : later.sent = session.sent ++ sent) :
    request.exchange session = (⟨.error fault.failure, events, sent⟩, later) := by
  simp only [exchange, Run.outcome, failed, logged, handed, List.drop_left]

theorem exchange_eq_ok {answer : Answer} {events : List Event} {sent : List Transaction}
    (performed : request.perform session = .ok answer later)
    (logged : later.log = session.log ++ events) (handed : later.sent = session.sent ++ sent) :
    request.exchange session = (⟨.ok answer, events, sent⟩, later) := by
  simp only [exchange, Run.outcome, performed, logged, handed, List.drop_left]

theorem exchange_refused (unready : ∀ data, ¬request.Transmits data) (session : Session) :
    (request.exchange session).1.Refused ∧
      (request.exchange session).1.Extends session (request.exchange session).2 := by
  obtain ⟨fault, failed⟩ := perform_unready unready session
  have logged : session.draw.log = session.log ++ [] := (List.append_nil _).symm
  have handed : session.draw.sent = session.sent ++ [] := (List.append_nil _).symm
  rw [exchange_eq_error failed logged handed]
  exact ⟨⟨rfl, rfl, fault.failure, rfl⟩, ⟨rfl, rfl, logged, handed⟩⟩

/-- What the request comes to when the receipt confirms its transaction. -/
theorem exchange_confirmed (transmits : request.Transmits data) {hash : String} {receipt : Receipt}
    (confirms : session.signer.Confirms (session.sent.length + 1) hash receipt) :
    ∃ result later,
      request.exchange session =
        (⟨result, [sentEvent request.receiver? request.contractName? data hash,
          confirmedEvent hash receipt], [⟨request.receiver?, data, session.gasLimit⟩]⟩, later) ∧
      (∀ answer, result = .ok answer ↔ request.Answers receipt answer) ∧
      (request.exchange session).1.Extends session later := by
  have sent := send_confirmed request.receiver? data request.contractName? confirms
  obtain ⟨answer, answers, performed⟩ | ⟨unanswered, fault, failed⟩ := perform_sent transmits sent
  · have same := exchange_eq_ok performed rfl rfl
    refine ⟨_, _, same, fun other => ?_, by rw [same]; exact ⟨rfl, rfl, rfl, rfl⟩⟩
    rw [Except.ok.injEq]
    exact ⟨fun equal => equal ▸ answers, fun again => answers.eq again⟩
  · have same := exchange_eq_error failed rfl rfl
    refine ⟨_, _, same, fun other => ?_, by rw [same]; exact ⟨rfl, rfl, rfl, rfl⟩⟩
    exact iff_of_false (fun equal => nomatch equal) (unanswered other)

/-- What the request comes to when no receipt confirms its transaction. -/
theorem exchange_unconfirmed (transmits : request.Transmits data)
    (unconfirmed : ∀ hash receipt,
      ¬session.signer.Confirms (session.sent.length + 1) hash receipt) :
    ∃ failure events later,
      request.exchange session =
        (⟨.error failure, events, [⟨request.receiver?, data, session.gasLimit⟩]⟩, later) ∧
      (∀ hash, session.signer.Accepts (session.sent.length + 1) hash →
        events = [sentEvent request.receiver? request.contractName? data hash]) ∧
      ((∀ hash, ¬session.signer.Accepts (session.sent.length + 1) hash) → events = []) ∧
      (request.exchange session).1.Extends session later := by
  by_cases accepted : ∃ hash, session.signer.Accepts (session.sent.length + 1) hash
  · obtain ⟨hash, accepts⟩ := accepted
    obtain ⟨message, unsent⟩ := send_unconfirmed request.receiver? data request.contractName?
      accepts (unconfirmed hash)
    have same := exchange_eq_error (perform_unsent transmits unsent) rfl rfl
    refine ⟨_, _, _, same, fun other again => ?_, fun refused => absurd accepts (refused hash), ?_⟩
    · rw [accepts.hash_eq again]
    · rw [same]
      exact ⟨rfl, rfl, rfl, rfl⟩
  · have refused := not_exists.mp accepted
    obtain ⟨message, unsent⟩ :=
      send_refused request.receiver? data request.contractName? refused
    have same := exchange_eq_error (perform_unsent transmits unsent) rfl rfl
    refine ⟨_, _, _, same, fun hash accepts => absurd accepts (refused hash), fun _ => rfl, ?_⟩
    rw [same]
    exact ⟨rfl, rfl, rfl, rfl⟩

/-- A request that can be put together hands over one transaction; its fate decides the rest. -/
theorem exchange_sends (transmits : request.Transmits data) (session : Session) :
    (request.exchange session).1.Sends session.signer session.gasLimit (session.sent.length + 1)
        request data ∧
      (request.exchange session).1.Extends session (request.exchange session).2 := by
  by_cases confirmed :
      ∃ hash receipt, session.signer.Confirms (session.sent.length + 1) hash receipt
  · obtain ⟨hash, receipt, confirms⟩ := confirmed
    obtain ⟨result, later, same, answers, grown⟩ := exchange_confirmed transmits confirms
    rw [same] at grown ⊢
    refine ⟨⟨rfl, ?_, ?_, ?_, ?_⟩, grown⟩
    · exact fun refused => absurd confirms.accepts (refused hash)
    · intro other accepts unconfirmed
      rw [accepts.hash_eq confirms.accepts] at unconfirmed
      exact absurd confirms (unconfirmed receipt)
    · intro other twin again
      rw [again.accepts.hash_eq confirms.accepts, again.receipt_eq confirms]
    · intro answer
      refine (answers answer).trans ⟨fun given => ⟨hash, receipt, confirms, given⟩, ?_⟩
      rintro ⟨other, twin, again, given⟩
      exact again.receipt_eq confirms ▸ given
  · have unconfirmed : ∀ hash receipt,
        ¬session.signer.Confirms (session.sent.length + 1) hash receipt :=
      fun hash receipt confirms => confirmed ⟨hash, receipt, confirms⟩
    obtain ⟨failure, events, later, same, announced, silent, grown⟩ :=
      exchange_unconfirmed transmits unconfirmed
    rw [same] at grown ⊢
    refine ⟨⟨rfl, silent, fun hash accepts _ => announced hash accepts,
      fun hash receipt confirms => absurd confirms (unconfirmed hash receipt), ?_⟩, grown⟩
    refine fun answer => iff_of_false (fun equal => nomatch equal) ?_
    rintro ⟨hash, receipt, confirms, -⟩
    exact unconfirmed hash receipt confirms

end Request

/-! ## Sequences of requests -/

/-- In a sequence, each request starts from what the ones before it have left. -/
theorem exchanges_grow (requests : List Request) (session : Session) :
    Follows session.signer session.gasLimit (session.sent.length + 1) requests
        (exchanges requests session).1 ∧
      (exchanges requests session).2.log =
        session.log ++ (exchanges requests session).1.flatMap Exchange.events ∧
      (exchanges requests session).2.sent =
        session.sent ++ (exchanges requests session).1.flatMap Exchange.sent := by
  induction requests generalizing session with
  | nil => exact ⟨.done _, (List.append_nil _).symm, (List.append_nil _).symm⟩
  | cons request rest ih =>
      obtain ⟨follows, logged, handed⟩ := ih (request.exchange session).2
      simp only [exchanges, List.flatMap_cons]
      by_cases ready : ∃ data, request.Transmits data
      · obtain ⟨data, transmits⟩ := ready
        obtain ⟨sends, grown⟩ := Request.exchange_sends transmits session
        rw [grown.log, List.append_assoc] at logged
        rw [grown.sent, List.append_assoc] at handed
        rw [grown.signer, grown.gasLimit, grown.sent, sends.sent, List.length_append,
          List.length_singleton] at follows
        exact ⟨.sends transmits sends follows, logged, handed⟩
      · have unready := not_exists.mp ready
        obtain ⟨refused, grown⟩ := Request.exchange_refused unready session
        rw [grown.log, List.append_assoc] at logged
        rw [grown.sent, List.append_assoc] at handed
        rw [grown.signer, grown.gasLimit, grown.sent, refused.sent, List.append_nil] at follows
        exact ⟨.refused unready refused follows, logged, handed⟩

/-- Whatever a signer is asked for, each request that can be put together hands over one
transaction, which meets the next outcome, and every other one fails without a trace; the events and
the transactions of all requests are what the session has in the end. -/
theorem exchanges_follow (signer : Signer) (gasLimit : Option Number) (book : AddressBook)
    (requests : List Request) :
    Follows signer (gasLimit.filter fun limit => !limit.isZero) 1 requests
        (exchanges requests (.start signer gasLimit book)).1 ∧
      (exchanges requests (.start signer gasLimit book)).2.log =
        (exchanges requests (.start signer gasLimit book)).1.flatMap Exchange.events ∧
      (exchanges requests (.start signer gasLimit book)).2.sent =
        (exchanges requests (.start signer gasLimit book)).1.flatMap Exchange.sent :=
  exchanges_grow requests (.start signer gasLimit book)

/-- A bytecode with a capital mark. -/
def capitalImage : CreationImage := ⟨"Lib", "0X00"⟩

/-- A capital mark is no obstacle: the bytecode is not `0x` and digits, yet it is sent, reported and
answered. -/
theorem capital_mark_sends :
    (¬∃ digits, capitalImage.bytecode.toList = '0' :: 'x' :: digits) ∧
      (exchanges [.create capitalImage none] (.start default none .empty)).1.map Exchange.sent =
        [[⟨none, "0x00", none⟩]] ∧
      ((exchanges [.create capitalImage none] (.start default none .empty)).1.map fun exchange =>
        exchange.events.map Event.kind) = [["transaction_sent", "transaction_confirmed"]] ∧
      ((exchanges [.create capitalImage none] (.start default none .empty)).1.map fun exchange =>
        exchange.result.isOk) = [true] := by
  refine ⟨?_, by decide +kernel, by decide +kernel, by decide +kernel⟩
  have shape : capitalImage.bytecode.toList = ['0', 'X', '0', '0'] := by decide
  rintro ⟨digits, same⟩
  rw [shape] at same
  cases same

end Rollout.Broadcast
