import Mathlib.Data.List.Forall2
import Rollout.Proofs.AddressBook
import Rollout.Proofs.Deployer
import Rollout.Proofs.LightClient.Image

/-!
# Progress of a deployment

A deployment of the light client creates the contracts that are missing one after the other, each
by one transaction, and stops at the first that fails.  What a procedure has done is told by the
contracts it had to create; one after the other, procedures do what their contracts taken together
tell.
-/

namespace Rollout

/-- The addresses of contracts that are created one after the other from the n-th transaction on,
up to the first that fails. -/
def creations (attempt : Contract → Nat → Option Address) :
    Nat → List Contract → List (Contract × Address)
  | _, [] => []
  | n, contract :: rest =>
      match attempt contract n with
      | none => []
      | some address => (contract, address) :: creations attempt (n + 1) rest

section Creations

variable {attempt : Contract → Nat → Option Address}

theorem creations_append {n : Nat} {first : List Contract}
    (complete : (creations attempt n first).length = first.length) (rest : List Contract) :
    creations attempt n (first ++ rest) =
      creations attempt n first ++ creations attempt (n + first.length) rest := by
  induction first generalizing n with
  | nil => rfl
  | cons contract first ih =>
      cases made : attempt contract n with
      | none => simp [creations, made] at complete
      | some address =>
          simp only [creations, made, List.length_cons, Nat.add_right_cancel_iff] at complete
          simp only [List.cons_append, creations, made, ih complete, List.length_cons]
          rw [Nat.add_right_comm, Nat.add_assoc]

theorem creations_of_failed {n : Nat} {contract : Contract} (failed : attempt contract n = none)
    (rest : List Contract) : creations attempt n (contract :: rest) = [] := by
  rw [creations, failed]

theorem creations_single {n : Nat} {contract : Contract} {address : Address}
    (made : attempt contract n = some address) :
    creations attempt n [contract] = [(contract, address)] := by
  rw [creations, made]
  rfl

theorem contracts_creations (n : Nat) (contracts : List Contract) :
    (creations attempt n contracts).map Prod.fst <+: contracts := by
  induction contracts generalizing n with
  | nil => exact List.nil_prefix
  | cons contract rest ih =>
      cases made : attempt contract n with
      | none => simp [creations, made]
      | some address =>
          simp only [creations, made, List.map_cons, List.cons_prefix_cons, true_and]
          exact ih (n + 1)

end Creations

namespace LightClient

open Procedure

/-- Whether a transaction is handed over for a contract: that of the light client is not when its
arguments cannot be encoded. -/
def isSent (arguments : Option Arguments) (contract : Contract) : Bool :=
  contract != .lightClient || (encodeArguments arguments).isOk

/-- The address of a contract if the n-th transaction is to create it. -/
def attempt (signer : Signer) (arguments : Option Arguments) (contract : Contract) (n : Nat) :
    Option Address :=
  if isSent arguments contract then signer.created? n else none

/-- The contracts for which transactions are handed over from the n-th on: those up to the first
that fails, which is among them when its transaction is handed over. -/
def attempted (signer : Signer) (arguments : Option Arguments) (n : Nat)
    (contracts : List Contract) : List Contract :=
  (contracts.take ((creations (attempt signer arguments) n contracts).length + 1)).filter
    (isSent arguments)

section Attempted

variable {signer : Signer} {arguments : Option Arguments} {n : Nat} {contracts : List Contract}

theorem isSent_of_complete
    (complete : (creations (attempt signer arguments) n contracts).length = contracts.length) :
    ∀ contract ∈ contracts, isSent arguments contract = true := by
  induction contracts generalizing n with
  | nil => simp
  | cons contract rest ih =>
      cases made : attempt signer arguments contract n with
      | none => simp [creations, made] at complete
      | some address =>
          simp only [creations, made, List.length_cons, Nat.add_right_cancel_iff] at complete
          have handed : isSent arguments contract = true := by
            by_contra withheld
            simp [attempt, withheld] at made
          rw [List.forall_mem_cons]
          exact ⟨handed, ih complete⟩

theorem attempted_of_complete
    (complete : (creations (attempt signer arguments) n contracts).length = contracts.length) :
    attempted signer arguments n contracts = contracts := by
  rw [attempted, complete, List.take_of_length_le (Nat.le_succ _)]
  exact List.filter_eq_self.mpr (isSent_of_complete complete)

theorem creations_of_halted {contract : Contract}
    (complete : (creations (attempt signer arguments) n contracts).length = contracts.length)
    (failed : attempt signer arguments contract (n + contracts.length) = none)
    (rest : List Contract) :
    creations (attempt signer arguments) n (contracts ++ contract :: rest) =
      creations (attempt signer arguments) n contracts := by
  rw [creations_append complete, creations_of_failed failed, List.append_nil]

theorem attempted_of_halted {contract : Contract}
    (complete : (creations (attempt signer arguments) n contracts).length = contracts.length)
    (failed : attempt signer arguments contract (n + contracts.length) = none)
    (rest : List Contract) :
    attempted signer arguments n (contracts ++ contract :: rest) =
      contracts ++ [contract].filter (isSent arguments) := by
  have taken : (contracts ++ contract :: rest).take (contracts.length + 1) =
      contracts ++ [contract] := by
    rw [← List.singleton_append, ← List.append_assoc]
    exact List.take_left' (by simp)
  rw [attempted, creations_of_halted complete failed, complete, taken, List.filter_append,
    List.filter_eq_self.mpr (isSent_of_complete complete)]

end Attempted

/-- A transaction creates a contract: a library by its template, and the light client by its image
with both libraries linked and the encoded arguments. -/
def Creates (variant : Variant) (arguments : Option Arguments) (gasLimit : Option Number) :
    Contract → Transaction → Prop
  | .plonkVerifier, transaction => transaction = ⟨none, Template.plonkVerifier.object, gasLimit⟩
  | .stateUpdateVK, transaction => transaction = ⟨none, variant.keyTemplate.object, gasLimit⟩
  | .lightClient, transaction =>
      ∃ verifier key encoded, encodeArguments arguments = .ok encoded ∧
        transaction =
          ⟨none, String.ofList (variant.linked verifier key ++ encoded), gasLimit⟩
  | _, _ => False

section

variable (variant : Variant) (arguments : Option Arguments)

/-- From one session to another, contracts have been created one after the other. -/
structure Progress (contracts : List Contract) (before after : Session) : Prop where
  signer : after.signer = before.signer
  gasLimit : after.gasLimit = before.gasLimit
  sent : ∃ transactions, after.sent = before.sent ++ transactions ∧
    List.Forall₂ (Creates variant arguments before.gasLimit) contracts transactions
  book : after.book.entries = before.book.entries ++
    creations (attempt before.signer arguments) (before.sent.length + 1) contracts
  complete : (creations (attempt before.signer arguments) (before.sent.length + 1)
    contracts).length = contracts.length

/-- A procedure has created contracts one after the other, or has stopped at the first that fails
with a failure that is announced. -/
inductive Carried {α : Type} :
    List Contract → Session → EStateM.Result Fault Session α → Prop
  | through {contracts : List Contract} {before after : Session} {value : α}
      (progress : Progress variant arguments contracts before after) :
      Carried contracts before (.ok value after)
  | halted {done rest : List Contract} {contract : Contract} {before middle after : Session}
      {transactions : List Transaction} {token : Nat} {cause : Failure}
      (progress : Progress variant arguments done before middle)
      (failed : attempt middle.signer arguments contract (middle.sent.length + 1) = none)
      (book : after.book = middle.book) (sent : after.sent = middle.sent ++ transactions)
      (creates : List.Forall₂ (Creates variant arguments before.gasLimit)
        ([contract].filter (isSent arguments)) transactions)
      (announced : token ∈ after.announced) :
      Carried (done ++ contract :: rest) before
        (.error ⟨token, .deployment contract cause⟩ after)

end

variable {variant : Variant} {arguments : Option Arguments}

namespace Progress

variable {contracts later : List Contract} {before middle after : Session}

theorem idle (signer : after.signer = before.signer) (gasLimit : after.gasLimit = before.gasLimit)
    (sent : after.sent = before.sent) (book : after.book = before.book) :
    Progress variant arguments [] before after where
  signer := signer
  gasLimit := gasLimit
  sent := ⟨[], by rw [sent, List.append_nil], .nil⟩
  book := by rw [book, creations, List.append_nil]
  complete := rfl

theorem length_sent (progress : Progress variant arguments contracts before after) :
    after.sent.length = before.sent.length + contracts.length := by
  obtain ⟨transactions, sent, creates⟩ := progress.sent
  rw [sent, List.length_append, creates.length_eq]

theorem trans (head : Progress variant arguments contracts before middle)
    (tail : Progress variant arguments later middle after) :
    Progress variant arguments (contracts ++ later) before after := by
  have next : middle.sent.length + 1 = before.sent.length + 1 + contracts.length := by
    rw [head.length_sent, Nat.add_right_comm]
  have made := creations_append head.complete later
  have rest := tail.complete
  rw [head.signer, next] at rest
  obtain ⟨transactions, sent, creates⟩ := head.sent
  obtain ⟨others, more, follows⟩ := tail.sent
  rw [head.gasLimit] at follows
  exact
    { signer := tail.signer.trans head.signer
      gasLimit := tail.gasLimit.trans head.gasLimit
      sent := ⟨transactions ++ others, by rw [more, sent, List.append_assoc],
        List.rel_append creates follows⟩
      book := by rw [tail.book, head.book, head.signer, next, made, List.append_assoc]
      complete := by rw [made, List.length_append, head.complete, rest, List.length_append] }

theorem lookup_of_known (progress : Progress variant arguments contracts before after)
    {contract : Contract} {address : Address}
    (known : before.book.lookup contract = some address) :
    after.book.lookup contract = some address :=
  AddressBook.lookup_of_prefix ⟨_, progress.book.symm⟩ known

theorem lookup_of_not_mem (progress : Progress variant arguments contracts before after)
    {contract : Contract} (other : contract ∉ contracts) :
    after.book.lookup contract = before.book.lookup contract := by
  have absent : AddressBook.lookup
      ⟨creations (attempt before.signer arguments) (before.sent.length + 1) contracts⟩
        contract = none := by
    rw [AddressBook.lookup_eq_none_iff]
    exact fun made => other ((contracts_creations _ contracts).mem made)
  have split := AddressBook.lookup_append before.book.entries
    (creations (attempt before.signer arguments) (before.sent.length + 1) contracts) contract
  rw [← progress.book, absent, Option.or_none] at split
  exact split

end Progress

namespace Carried

variable {α β : Type} {contracts later : List Contract} {before middle : Session}

theorem after_progress {result : EStateM.Result Fault Session α}
    (progress : Progress variant arguments contracts before middle)
    (carried : Carried variant arguments later middle result) :
    Carried variant arguments (contracts ++ later) before result := by
  cases carried with
  | through next => exact .through (progress.trans next)
  | halted next failed book sent creates announced =>
      rw [← List.append_assoc]
      rw [progress.gasLimit] at creates
      exact .halted (progress.trans next) failed book sent creates announced

theorem progress_of_ok {value : α} {after : Session}
    (carried : Carried variant arguments contracts before (.ok value after)) :
    Progress variant arguments contracts before after := by
  cases carried with
  | through progress => exact progress

theorem of_report {event : Event} {result : EStateM.Result Fault Session α}
    (carried : Carried variant arguments contracts (before.report event) result) :
    Carried variant arguments contracts before result := by
  have idle : Progress variant arguments [] before (before.report event) := .idle rfl rfl rfl rfl
  have joined := after_progress idle carried
  exact joined

theorem own_of_error {fault : Fault} {after : Session}
    (carried : Carried variant arguments contracts before
      (.error fault after : EStateM.Result Fault Session α)) :
    fault.failure.isOwn = true ∧ fault.token ∈ after.announced := by
  cases carried with
  | halted progress failed book sent creates announced => exact ⟨rfl, announced⟩

theorem append_of_error {fault : Fault} {after : Session}
    (carried : Carried variant arguments contracts before
      (.error fault after : EStateM.Result Fault Session α)) (later : List Contract) :
    Carried variant arguments (contracts ++ later) before
      (.error fault after : EStateM.Result Fault Session β) := by
  cases carried with
  | halted progress failed book sent creates announced =>
      rw [List.append_assoc]
      exact .halted progress failed book sent creates announced

/-- A step that creates contracts, followed by one that creates others. -/
theorem bind {first : Procedure α} {next : α → Procedure β}
    (head : Carried variant arguments contracts before (first before))
    (tail : ∀ value middle, first before = .ok value middle →
      Carried variant arguments later middle (next value middle)) :
    Carried variant arguments (contracts ++ later) before ((first >>= next) before) := by
  rw [bind_apply]
  cases result : first before with
  | ok value middle =>
      rw [result] at head
      cases head with
      | through progress => exact after_progress progress (tail value middle result)
  | error fault middle =>
      rw [result] at head
      exact head.append_of_error later

/-- What a procedure has sent and entered. -/
theorem effect {result : EStateM.Result Fault Session α}
    (carried : Carried variant arguments contracts before result) :
    ∃ transactions, (final result).sent = before.sent ++ transactions ∧
      List.Forall₂ (Creates variant arguments before.gasLimit)
        (attempted before.signer arguments (before.sent.length + 1) contracts) transactions ∧
      (final result).book.entries = before.book.entries ++
        creations (attempt before.signer arguments) (before.sent.length + 1) contracts := by
  cases carried with
  | through progress =>
      obtain ⟨transactions, sent, creates⟩ := progress.sent
      rw [attempted_of_complete progress.complete]
      exact ⟨transactions, sent, creates, progress.book⟩
  | @halted done rest contract _ middle after others token cause progress failed book sent
      creates announced =>
      rw [progress.signer, progress.length_sent, Nat.add_right_comm] at failed
      obtain ⟨transactions, handed, follows⟩ := progress.sent
      rw [attempted_of_halted progress.complete failed,
        creations_of_halted progress.complete failed]
      refine ⟨transactions ++ others, ?_, List.rel_append follows creates, ?_⟩
      · rw [final, sent, handed, List.append_assoc]
      · rw [final, book, progress.book]

theorem failure_of_error {fault : Fault} {after : Session}
    (carried : Carried variant arguments contracts before
      (.error fault after : EStateM.Result Fault Session α)) :
    ∃ contract cause,
      contracts[(creations (attempt before.signer arguments) (before.sent.length + 1)
        contracts).length]? = some contract ∧
      fault.failure = .deployment contract cause := by
  cases carried with
  | @halted done rest contract _ middle _ others token cause progress failed book sent creates
      announced =>
      rw [progress.signer, progress.length_sent, Nat.add_right_comm] at failed
      refine ⟨contract, cause, ?_, rfl⟩
      rw [creations_of_halted progress.complete failed, progress.complete,
        List.getElem?_append_right (Nat.le_refl _), Nat.sub_self]
      rfl

/-- A procedure that fails has not come to what was to follow. -/
theorem attempted_of_error {fault : Fault} {after : Session}
    (carried : Carried variant arguments contracts before
      (.error fault after : EStateM.Result Fault Session α)) (later : List Contract) :
    attempted before.signer arguments (before.sent.length + 1) (contracts ++ later) ⊆
      contracts := by
  cases carried with
  | @halted done rest contract _ middle _ others token cause progress failed book sent creates
      announced =>
      rw [progress.signer, progress.length_sent, Nat.add_right_comm] at failed
      rw [List.append_assoc, List.cons_append,
        attempted_of_halted progress.complete failed (rest ++ later)]
      refine List.append_subset.mpr ⟨List.subset_append_left _ _, ?_⟩
      intro other member
      rw [List.mem_singleton.mp (List.mem_of_mem_filter member)]
      simp

end Carried

end LightClient

end Rollout
