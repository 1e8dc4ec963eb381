import Rollout.Proofs.Abi.Digits
import Rollout.Proofs.Run.Order

/-!
# What a run broadcasts

The data of every transaction is hexadecimal and free of placeholders.  The light client is linked
with the two library addresses that are in the book when it is handed over, and these are the
addresses that the run exports.
-/

namespace Rollout

/-- The data of a transaction consists of hexadecimal digits, and no library is left to fill in. -/
structure Transaction.Clean (transaction : Transaction) : Prop where
  /-- Behind the mark stand digits only. -/
  hex : ∃ digits, transaction.data.toList = '0' :: 'x' :: digits ∧
    ∀ c ∈ digits, Text.isHexDigit c = true
  /-- Nowhere does a placeholder stand. -/
  filled : ∀ candidate, Artifact.isPlaceholder candidate = true →
    ¬ candidate <:+: transaction.data.toList

theorem Artifact.underscore_of_isPlaceholder {candidate : List Char}
    (placeholder : isPlaceholder candidate = true) : '_' ∈ candidate := by
  cases candidate with
  | nil => contradiction
  | cons c rest =>
      rw [isPlaceholder, Bool.and_eq_true, List.all_eq_true] at placeholder
      have allowed : placeholderAllows 0 c = true := by
        simpa using placeholder.2 _ (by
          rw [placeholderLength, List.range_succ_eq_map, List.zipWith_cons_cons]
          exact List.mem_cons_self)
      have first : c = '_' := by simpa [placeholderAllows] using allowed
      rw [first]
      exact List.mem_cons_self

theorem Transaction.clean_of_digits {transaction : Transaction} {digits : List Char}
    (shape : transaction.data.toList = '0' :: 'x' :: digits) (small : Text.SmallDigits digits) :
    transaction.Clean where
  hex := ⟨digits, shape, fun c member => Text.isHexDigit_of_isSmallDigit (small c member)⟩
  filled := by
    intro candidate placeholder inside
    have member := inside.subset (Artifact.underscore_of_isPlaceholder placeholder)
    rw [shape, List.mem_cons, List.mem_cons] at member
    rcases member with zero | mark | digit
    · contradiction
    · contradiction
    · exact small.not_mem rfl digit

namespace Run

open LightClient

theorem clean_of_creates {variant : Variant} (layout : variant.Layout)
    {arguments : Option Arguments} {gasLimit : Option Number} {contract : Contract}
    {transaction : Transaction}
    (creates : Creates variant arguments gasLimit contract transaction) : transaction.Clean := by
  cases contract with
  | plonkVerifier =>
      obtain ⟨digits, shape, small, _⟩ := @library_digits .plonkVerifier (by decide)
      rw [Creates] at creates
      exact Transaction.clean_of_digits (creates ▸ shape) small
  | stateUpdateVK =>
      obtain ⟨digits, shape, small, _⟩ := library_digits layout.keyTemplate_library
      rw [Creates] at creates
      exact Transaction.clean_of_digits (creates ▸ shape) small
  | lightClient =>
      obtain ⟨verifier, key, encoded, given, rfl⟩ := creates
      refine @Transaction.clean_of_digits _ (layout.digits verifier key ++ encoded) ?_
        ((layout.digits_small verifier key).append (encodeArguments_small given))
      rw [String.toList_ofList, layout.linked_eq]
      rfl
  | hotShot => exact creates.elim
  | lightClientProxy => exact creates.elim

theorem clean_of_forall₂ {variant : Variant} (layout : variant.Layout)
    {arguments : Option Arguments} {gasLimit : Option Number} {contracts : List Contract}
    {transactions : List Transaction}
    (creates : List.Forall₂ (Creates variant arguments gasLimit) contracts transactions) :
    ∀ transaction ∈ transactions, transaction.Clean := by
  induction creates with
  | nil => simp
  | cons head _ ih =>
      rw [List.forall_mem_cons]
      exact ⟨clean_of_creates layout head, ih⟩

theorem sent_clean (options : Options) (signer : Signer) (sink : Sink) :
    ∀ transaction ∈ (runDeployment options signer sink).sent, transaction.Clean := by
  cases seeded : options.seeds with
  | error fault => simp [runDeployment, seeded]
  | ok book =>
      obtain ⟨transactions, sent, creates, _⟩ :=
        (deployment_carried options (options.opening signer book)).effect
      have sent_eq : (runDeployment options signer sink).sent = transactions :=
        (report_sent seeded signer sink).trans sent
      rw [sent_eq]
      exact clean_of_forall₂ (Variant.layout options.mock) creates

/-- A run hands over the creation of the light client in a session, linked with a verifier and a
key. -/
structure HandsOver (options : Options) (signer : Signer) (report : Report)
    (transaction : Transaction) (before : Session) (verifier key : Address) : Prop where
  /-- In the session, both libraries have just been deployed and linked. -/
  moment : ∃ artifact,
    deployAndLink options.variant (opened (options.opening signer options.seedBook)) =
      .ok artifact before
  /-- The transaction comes next, and it is the last one. -/
  sent : report.sent = before.sent ++ [transaction]
  /-- The verifier is known. -/
  verifier_known : before.book.lookup .plonkVerifier = some verifier
  /-- The key is known. -/
  key_known : before.book.lookup .stateUpdateVK = some key
  /-- The data is the template with both slots filled, and the encoded arguments behind it. -/
  data : ∃ encoded, encodeArguments options.arguments = .ok encoded ∧
    transaction.data.toList = options.variant.linked verifier key ++ encoded
  /-- In production, nothing stands behind the template. -/
  alone : options.mock = false →
    transaction.data.toList = options.variant.linked verifier key
  /-- The run exports its book. -/
  exported : report.written = report.book.lines
  /-- The only entry of the verifier is the linked one. -/
  verifier_exported : report.book.entriesOf .plonkVerifier = [(.plonkVerifier, verifier)]
  /-- The only entry of the key is the linked one. -/
  key_exported : report.book.entriesOf .stateUpdateVK = [(.stateUpdateVK, key)]

theorem length_attempted {before : Session} {arguments : Option Arguments} {n : Nat}
    (absent : before.book.lookup .lightClient = none)
    (place : (LightClient.attempted before.signer arguments (before.sent.length + 1)
      (LightClient.missing before.book))[n]? = some .lightClient) :
    (LightClient.attempted before.signer arguments (before.sent.length + 1)
      (LightClient.missing before.book)).length = n + 1 := by
  have ordered : (LightClient.attempted before.signer arguments (before.sent.length + 1)
      (LightClient.missing before.book)).Sublist
        (unknown before.book [.plonkVerifier, .stateUpdateVK] ++ [.lightClient]) := by
    rw [← missing_of_absent absent]
    exact List.filter_sublist.trans (List.take_sublist _ _)
  obtain ⟨front, back, split, inside, last⟩ := List.sublist_append_iff.mp ordered
  have size := last.length_le
  rw [split] at place ⊢
  have bound := (List.getElem?_eq_some_iff.mp place).1
  rw [List.length_append] at bound ⊢
  rw [List.length_singleton] at size
  by_cases early : n < front.length
  · rw [List.getElem?_append_left early] at place
    have library := inside.subset (List.mem_of_getElem? place)
    simp [unknown] at library
  · omega

theorem encoded_of_production {options : Options} {encoded : List Char}
    (production : options.mock = false)
    (given : encodeArguments options.arguments = .ok encoded) : encoded = [] := by
  simp only [Options.arguments, production, Bool.false_eq_true, if_false, encodeArguments,
    Except.ok.injEq] at given
  exact given.symm

/-- Every transaction is free of placeholders, and the light client is linked with the addresses
that the run exports. -/
theorem links_what_it_exports (options : Options) (signer : Signer) (sink : Sink) :
    (∀ transaction ∈ (runDeployment options signer sink).sent, transaction.Clean) ∧
      (options.SeedsValid → sink.Takes (runDeployment options signer sink).book.lines →
        ∀ n : Nat, (options.attempted signer)[n]? = some .lightClient →
          ∃ transaction before verifier key,
            (runDeployment options signer sink).sent[n]? = some transaction ∧
              HandsOver options signer (runDeployment options signer sink) transaction before
                verifier key) := by
  refine ⟨sent_clean options signer sink, fun valid takes n place => ?_⟩
  have seeded := Options.seeds_eq valid
  let opening := options.opening signer options.seedBook
  have layout : options.variant.Layout := Variant.layout options.mock
  have reached : .lightClient ∈ LightClient.attempted opening.signer options.arguments
      (opening.sent.length + 1) (LightClient.missing opening.book) := List.mem_of_getElem? place
  obtain ⟨absent, artifact, after, encoded, linked, given⟩ := linked_of_attempted layout reached
  obtain ⟨verifier, key, rfl, verifier_known, key_known⟩ := lookup_of_deployAndLink layout linked
  obtain ⟨last, others⟩ := final_of_linked layout absent linked given
  let transaction := Broadcast.creation after
    (String.ofList (options.variant.linked verifier key ++ encoded))
  have content : transaction.data.toList = options.variant.linked verifier key ++ encoded :=
    String.toList_ofList
  have sent : (runDeployment options signer sink).sent = after.sent ++ [transaction] := by
    rw [report_sent seeded, deployment_eq]
    exact last
  have kept : ∀ contract, contract ≠ .lightClient →
      (runDeployment options signer sink).book.lookup contract = after.book.lookup contract := by
    rw [report_book seeded, deployment_eq]
    exact others
  have count : after.sent.length = n := by
    have matched := (sent_creates valid signer sink).length_eq
    rw [sent, List.length_append, List.length_singleton] at matched
    have last : (options.attempted signer).length = n + 1 := length_attempted absent place
    omega
  have distinct := contracts_nodup valid signer sink
  refine ⟨transaction, after, verifier, key, ?_, ?_⟩
  · rw [sent, ← count, List.getElem?_append_right (Nat.le_refl _), Nat.sub_self]
    rfl
  · exact
      { moment := ⟨_, linked⟩
        sent := sent
        verifier_known := verifier_known
        key_known := key_known
        data := ⟨encoded, given, content⟩
        alone := by
          intro production
          rw [encoded_of_production production given, List.append_nil] at content
          exact content
        exported := (report_of_takes seeded signer sink takes).2
        verifier_exported := AddressBook.entriesOf_eq distinct
          ((kept .plonkVerifier (by decide)).trans verifier_known)
        key_exported := AddressBook.entriesOf_eq distinct
          ((kept .stateUpdateVK (by decide)).trans key_known) }

/-- The light client of tests with a verifier that is deployed already. -/
def capitalRun : Options :=
  { deployed := .record
      [("PlonkVerifier", .text "0xABCDEFabcdef0123456789ABCDEFabcdef012345")]
    mock := true
    mockArguments := none
    destination := "stdout"
    gasLimit := none }

/-- A signer in whose first receipt the address is written in capital letters. -/
def capitalSigner : Signer :=
  { usualSigner with
    outcomes := [.accepted none
      (.mined [("contractAddress", .text "0xFEDCBA9876543210FEDCBA9876543210FEDCBA98")])] }

theorem links_what_it_exports_capital :
    capitalRun.SeedsValid ∧
      capitalRun.attempted capitalSigner = [.stateUpdateVK, .lightClient] ∧
      ∃ transaction before verifier key,
        (runDeployment capitalRun capitalSigner .unlimited).sent[1]? = some transaction ∧
          HandsOver capitalRun capitalSigner (runDeployment capitalRun capitalSigner .unlimited)
            transaction before verifier key := by
  have valid : capitalRun.SeedsValid := by decide +kernel
  have attempted : capitalRun.attempted capitalSigner = [.stateUpdateVK, .lightClient] := by
    decide +kernel
  exact ⟨valid, attempted,
    (links_what_it_exports capitalRun capitalSigner .unlimited).2 valid rfl 1
      (by rw [attempted]; rfl)⟩

end Run

end Rollout
