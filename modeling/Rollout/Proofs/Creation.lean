import Rollout.Broadcast
import Rollout.Proofs.Checked
import Rollout.Proofs.Procedure
import Rollout.Proofs.Text

/-!
# Creating a contract

What becomes of a transaction depends on the outcome that the signer has for its place: it is not
accepted, or it is accepted under a hash, or its receipt confirms it as well.  A creation
transaction either gives a value that is to be the address of the new contract or fails for a reason
outside the deployer's own family.  In both cases the session changes only by the transaction,
reports about it and at most one token.
-/

namespace Rollout

/-- Whether an event reports the fate of a transaction. -/
def Event.isTransaction : Event → Bool
  | transactionSent .. | transactionConfirmed .. => true
  | _ => false

theorem Receipt.succeeded_iff {receipt : Receipt} :
    receipt.succeeded = true ↔ receipt.field "status" = .number (.int 1) := by
  rw [succeeded]
  cases receipt.field "status" <;> simp

namespace Signer

/-- The n-th transaction is accepted under a hash. -/
def Accepts (signer : Signer) (n : Nat) (hash : String) : Prop :=
  ∃ given confirmation, signer.outcome n = .accepted given confirmation ∧
    hash = given.getD (Transaction.usualHash n)

/-- The n-th transaction is accepted under a hash and mined, and the status in its receipt is
one. -/
def Confirms (signer : Signer) (n : Nat) (hash : String) (receipt : Receipt) : Prop :=
  ∃ given fields, signer.outcome n = .accepted given (.mined fields) ∧
    hash = given.getD (Transaction.usualHash n) ∧ receipt = .ofFields n hash fields ∧
    receipt.field "status" = .number (.int 1)

/-- The address of the contract that the n-th transaction creates: it is accepted, mined with
effect, and its receipt holds an address. -/
def created? (signer : Signer) (n : Nat) : Option Address :=
  match signer.outcome n with
  | .accepted hash (.mined fields) =>
      let receipt := Receipt.ofFields n (hash.getD (Transaction.usualHash n)) fields
      if receipt.succeeded then (Address.ofValue receipt.contractAddress).toOption else none
  | _ => none

variable {signer : Signer} {n : Nat} {hash other : String} {receipt : Receipt}

theorem Confirms.accepts (confirms : signer.Confirms n hash receipt) : signer.Accepts n hash := by
  obtain ⟨given, fields, outcome, named, -⟩ := confirms
  exact ⟨given, .mined fields, outcome, named⟩

theorem Accepts.hash_eq (accepts : signer.Accepts n hash) (again : signer.Accepts n other) :
    hash = other := by
  obtain ⟨given, confirmation, outcome, rfl⟩ := accepts
  obtain ⟨_, _, same, rfl⟩ := again
  cases outcome.symm.trans same
  rfl

theorem Confirms.receipt_eq {twin : Receipt} (confirms : signer.Confirms n hash receipt)
    (again : signer.Confirms n other twin) : receipt = twin := by
  obtain ⟨given, fields, outcome, rfl, rfl, -⟩ := confirms
  obtain ⟨_, _, same, rfl, rfl, -⟩ := again
  cases outcome.symm.trans same
  rfl

theorem Confirms.created?_eq (confirms : signer.Confirms n hash receipt) :
    signer.created? n = (Address.ofValue receipt.contractAddress).toOption := by
  obtain ⟨given, fields, outcome, rfl, rfl, effect⟩ := confirms
  simp only [created?, outcome, Receipt.succeeded_iff.mpr effect, if_true]

/-- A transaction that is not confirmed creates nothing. -/
theorem created?_eq_none (unconfirmed : ∀ hash receipt, ¬signer.Confirms n hash receipt) :
    signer.created? n = none := by
  rw [created?]
  split
  · next given fields outcome =>
      refine if_neg fun effect => ?_
      exact unconfirmed _ _ ⟨given, fields, outcome, rfl, rfl, Receipt.succeeded_iff.mp effect⟩
  · rfl

end Signer

theorem Address.text_of_ofValue {value : Value} {address : Address}
    (accepted : Address.ofValue value = .ok address) : value = .text address.text := by
  cases value with
  | text content =>
      simp only [ofValue, ofText] at accepted
      split at accepted
      · obtain rfl := Except.ok.inj accepted
        rfl
      · contradiction
  | _ => simp [ofValue] at accepted

theorem Address.text_ne_empty (address : Address) : address.text ≠ "" := by
  intro empty
  have valid := address.valid
  rw [empty] at valid
  simp [isAddressText] at valid

theorem Address.isGiven_of_ofValue {value : Value} {address : Address}
    (accepted : Address.ofValue value = .ok address) : value.isGiven = true := by
  rw [text_of_ofValue accepted]
  simpa [Value.isGiven] using address.text_ne_empty

/-- Whether a failure is outside the deployer's own family and can be told. -/
def Failure.isForeign (failure : Failure) : Bool := !failure.isOwn && failure.hasText

theorem Failure.isForeign_iff {failure : Failure} :
    failure.isForeign = true ↔ failure.isOwn = false ∧ failure.hasText = true := by
  rw [isForeign, Bool.and_eq_true, Bool.not_eq_true']

namespace Broadcast

open Procedure

theorem isForeign_missingAddress (contractName : String) (receipt : Receipt) :
    (missingAddress contractName receipt).isForeign = true := by
  rw [missingAddress]
  split <;> rfl

/-- The transaction that creates a contract from its data. -/
def creation (session : Session) (data : String) : Transaction :=
  ⟨none, data, session.gasLimit⟩

/-- The report of a transaction that the signer has accepted. -/
def sentEvent (receiver name : Option String) (data hash : String) : Event :=
  .transactionSent (receiver.getD "contract creation") name
    (String.ofList (Text.takeUnits previewLength data.toList)) hash

/-- The report of a transaction that its receipt confirms. -/
def confirmedEvent (hash : String) (receipt : Receipt) : Event :=
  .transactionConfirmed hash (receipt.field "blockNumber") receipt.contractAddress

/-! ### The fates of a transaction -/

/-- A session in which one more transaction has been handed over. -/
def handedOver (receiver : Option String) (data : String) (session : Session) : Session :=
  { session with sent := session.sent ++ [⟨receiver, data, session.gasLimit⟩] }

section Submit

variable {receiver : Option String} {data : String} {session : Session}

theorem submit_refused {message : String}
    (met : session.signer.outcome (session.sent.length + 1) = .refused message) :
    submit receiver data session =
      Procedure.fail (.plain message) (handedOver receiver data session) := by
  simp [submit, bind_apply, get_apply, set_apply, met, handedOver]

theorem submit_accepted {hash : Option String} {confirmation : Confirmation}
    (met : session.signer.outcome (session.sent.length + 1) = .accepted hash confirmation) :
    submit receiver data session =
      .ok (session.sent.length + 1,
        hash.getD (Transaction.usualHash (session.sent.length + 1)), confirmation)
        (handedOver receiver data session) := by
  simp [submit, bind_apply, get_apply, set_apply, pure_apply, met, handedOver]

end Submit

section Fates

variable {session : Session} {hash : String} (receiver : Option String) (data : String)
  (name : Option String)

theorem send_refused
    (refused : ∀ hash, ¬session.signer.Accepts (session.sent.length + 1) hash) :
    ∃ message, send receiver data name session = .error ⟨session.issued, .plain message⟩
      (session.broadcast ⟨receiver, data, session.gasLimit⟩ []).draw := by
  cases outcome : session.signer.outcome (session.sent.length + 1) with
  | refused message =>
      refine ⟨message, ?_⟩
      simp only [send, bind_apply, submit_refused outcome, fail_apply]
      simp [handedOver, Session.broadcast]
  | accepted given confirmation => exact absurd ⟨given, confirmation, outcome, rfl⟩ (refused _)

theorem send_unconfirmed (accepts : session.signer.Accepts (session.sent.length + 1) hash)
    (unconfirmed : ∀ receipt, ¬session.signer.Confirms (session.sent.length + 1) hash receipt) :
    ∃ message, send receiver data name session = .error ⟨session.issued, .plain message⟩
      (session.broadcast ⟨receiver, data, session.gasLimit⟩
        [sentEvent receiver name data hash]).draw := by
  obtain ⟨given, confirmation, outcome, hashed⟩ := accepts
  simp only [send, bind_apply, submit_accepted outcome, ← hashed, emit_apply]
  cases confirmation with
  | lost message => exact ⟨message, rfl⟩
  | dropped => exact ⟨_, rfl⟩
  | mined fields =>
      have effect :
          (Receipt.ofFields (session.sent.length + 1) hash fields).succeeded = false := by
        rw [Bool.eq_false_iff, ne_eq, Receipt.succeeded_iff]
        exact fun status => unconfirmed _ ⟨given, fields, outcome, hashed, rfl, status⟩
      simp only [await, pure_apply, effect, Bool.false_eq_true, if_false]
      exact ⟨_, rfl⟩

theorem send_confirmed {receipt : Receipt}
    (confirms : session.signer.Confirms (session.sent.length + 1) hash receipt) :
    send receiver data name session = .ok receipt
      (session.broadcast ⟨receiver, data, session.gasLimit⟩
        [sentEvent receiver name data hash, confirmedEvent hash receipt]) := by
  obtain ⟨given, fields, outcome, hashed, received, effect⟩ := confirms
  rw [← Receipt.succeeded_iff] at effect
  simp only [send, bind_apply, submit_accepted outcome, ← hashed, emit_apply, await, pure_apply,
    ← received, effect, if_true]
  simp [handedOver, Session.broadcast, Session.report, sentEvent, confirmedEvent]

end Fates

/-! ### The outcome of a creation -/

theorem send_cases (session : Session) (data name : String) :
    ∃ events, (∀ event ∈ events, event.isTransaction) ∧
      ((∃ receipt,
          send none data (some name) session =
            .ok receipt (session.broadcast (creation session data) events) ∧
          session.signer.created? (session.sent.length + 1) =
            (Address.ofValue receipt.contractAddress).toOption) ∨
        ∃ message,
          send none data (some name) session =
            .error ⟨session.issued, .plain message⟩
              (session.broadcast (creation session data) events).draw ∧
          session.signer.created? (session.sent.length + 1) = none) := by
  by_cases confirmed :
      ∃ hash receipt, session.signer.Confirms (session.sent.length + 1) hash receipt
  · obtain ⟨hash, receipt, confirms⟩ := confirmed
    refine ⟨_, ?_, .inl ⟨receipt, send_confirmed none data name confirms, confirms.created?_eq⟩⟩
    simp [sentEvent, confirmedEvent, Event.isTransaction]
  · have unconfirmed : ∀ hash receipt,
        ¬session.signer.Confirms (session.sent.length + 1) hash receipt :=
      fun hash receipt confirms => confirmed ⟨hash, receipt, confirms⟩
    have nothing := Signer.created?_eq_none unconfirmed
    by_cases accepted : ∃ hash, session.signer.Accepts (session.sent.length + 1) hash
    · obtain ⟨hash, accepts⟩ := accepted
      obtain ⟨message, sent⟩ := send_unconfirmed none data name accepts (unconfirmed hash)
      refine ⟨_, ?_, .inr ⟨message, sent, nothing⟩⟩
      simp [sentEvent, Event.isTransaction]
    · obtain ⟨message, sent⟩ := send_refused none data name (not_exists.mp accepted)
      exact ⟨[], by simp, .inr ⟨message, sent, nothing⟩⟩

theorem creationData_eq {image : CreationImage} {digits encoded : List Char}
    {arguments : Option Arguments} (shape : image.bytecode.toList = '0' :: 'x' :: digits)
    (small : Text.SmallDigits digits) (even : digits.length % 2 = 0)
    (given : encodeArguments arguments = .ok encoded) :
    creationData image arguments = .ok (String.ofList (image.bytecode.toList ++ encoded)) := by
  have hex : digits.all Text.isHexDigit = true := List.all_eq_true.mpr fun c member =>
    Text.isHexDigit_of_isSmallDigit (small c member)
  have read : Abi.dataDigits (.text image.bytecode) = .ok digits := by
    simp [Abi.dataDigits, Abi.dataDigits?, shape, hex, even, small.map_lowerHex_eq]
  simp only [creationData, given, read, bind, Except.bind, pure, Except.pure, shape,
    List.cons_append]

theorem creationData_unencoded {arguments : Option Arguments} {fault : ArgumentFault}
    (refused : encodeArguments arguments = .error fault) (image : CreationImage) :
    creationData image arguments = .error fault := by
  simp only [creationData, refused, bind, Except.bind]

theorem createContract_unencoded {image : CreationImage} {arguments : Option Arguments}
    {fault : ArgumentFault} (unencoded : creationData image arguments = .error fault)
    (session : Session) :
    createContract image arguments session =
      .error ⟨session.issued, .argument fault⟩ session.draw := by
  simp only [createContract, unencoded, Except.mapError, adopt_error, bind_apply, fail_apply]

section Encoded

variable {image : CreationImage} {arguments : Option Arguments} {data : String}
  (encoded : creationData image arguments = .ok data)

include encoded

theorem createContract_unsent {session later : Session} {fault : Fault}
    (unsent : send none data (some image.contractName) session = .error fault later) :
    createContract image arguments session = .error fault later := by
  simp only [createContract, encoded, Except.mapError, adopt_ok, bind_apply, pure_apply, unsent]

theorem createContract_sent {session later : Session} {receipt : Receipt}
    (sent : send none data (some image.contractName) session = .ok receipt later)
    (given : receipt.contractAddress.isGiven = true) :
    createContract image arguments session = .ok receipt.contractAddress later := by
  simp only [createContract, encoded, Except.mapError, adopt_ok, bind_apply, pure_apply, sent,
    given, if_true]

theorem createContract_unaddressed {session later : Session} {receipt : Receipt}
    (sent : send none data (some image.contractName) session = .ok receipt later)
    (missing : receipt.contractAddress.isGiven = false) :
    createContract image arguments session =
      .error ⟨later.issued, missingAddress image.contractName receipt⟩ later.draw := by
  simp only [createContract, encoded, Except.mapError, adopt_ok, bind_apply, pure_apply, sent,
    missing, Bool.false_eq_true, if_false, fail_apply]

/-- An encoded creation is handed over; it gives what the receipt holds as the address or fails
without a place in the deployer's own family, for a reason that can be told. -/
theorem createContract_cases (session : Session) :
    ∃ events, (∀ event ∈ events, event.isTransaction) ∧
      ((∃ value,
          createContract image arguments session =
            .ok value (session.broadcast (creation session data) events) ∧
          session.signer.created? (session.sent.length + 1) =
            (Address.ofValue value).toOption) ∨
        ∃ failure : Failure, failure.isForeign = true ∧
          createContract image arguments session =
            .error ⟨session.issued, failure⟩
              (session.broadcast (creation session data) events).draw ∧
          session.signer.created? (session.sent.length + 1) = none) := by
  obtain ⟨events, reports, ⟨receipt, sent, fate⟩ | ⟨message, unsent, fate⟩⟩ :=
    send_cases session data image.contractName
  · refine ⟨events, reports, ?_⟩
    cases given : receipt.contractAddress.isGiven with
    | true => exact .inl ⟨_, createContract_sent encoded sent given, fate⟩
    | false =>
        refine .inr ⟨_, isForeign_missingAddress _ receipt,
          createContract_unaddressed encoded sent given, ?_⟩
        rw [fate]
        cases accepted : Address.ofValue receipt.contractAddress with
        | ok address =>
            rw [Address.isGiven_of_ofValue accepted] at given
            contradiction
        | error fault => rfl
  · exact ⟨events, reports, .inr ⟨_, rfl, createContract_unsent encoded unsent, fate⟩⟩

end Encoded

end Broadcast

end Rollout
