import Rollout.Deployer
import Rollout.Proofs.AddressBook
import Rollout.Proofs.Creation

/-!
# Laws of deploying a contract

A deployment of a known contract is skipped.  Any other runs its procedure, enters what that gives,
and lets a failure through: unchanged if it is of the deployer's own family, wrapped otherwise, and
announced if that was not done before.  A failure that cannot be told is neither wrapped nor
announced; another one leaves in its place.
-/

namespace Rollout.Deployer

open Procedure Broadcast

/-- The failure that leaves a deployment whose procedure fails, and the session it leaves. -/
def leaving (contract : Contract) (fault : Fault) (session : Session) : Fault × Session :=
  if fault.failure.isOwn then
    if fault.token ∈ session.announced then (fault, session)
    else (fault, session.announce contract fault)
  else if fault.failure.hasText then
    let wrapped : Fault := ⟨session.issued, .deployment contract fault.failure⟩
    (wrapped, session.draw.announce contract wrapped)
  else (⟨session.issued, .unshowable⟩, session.draw)

theorem leaving_announced {contract : Contract} {fault : Fault} {session : Session}
    (own : fault.failure.isOwn = true) (announced : fault.token ∈ session.announced) :
    leaving contract fault session = (fault, session) := by
  simp [leaving, own, announced]

theorem leaving_unannounced {contract : Contract} {fault : Fault} {session : Session}
    (own : fault.failure.isOwn = true) (unannounced : fault.token ∉ session.announced) :
    leaving contract fault session = (fault, session.announce contract fault) := by
  simp [leaving, own, unannounced]

theorem leaving_foreign {contract : Contract} {fault : Fault} {session : Session}
    (foreign : fault.failure.isForeign = true) :
    leaving contract fault session =
      (⟨session.issued, .deployment contract fault.failure⟩,
        session.draw.announce contract ⟨session.issued, .deployment contract fault.failure⟩) := by
  rw [Failure.isForeign_iff] at foreign
  simp [leaving, foreign]

theorem leaving_untold {contract : Contract} {fault : Fault} {session : Session}
    (foreign : fault.failure.isOwn = false) (untold : fault.failure.hasText = false) :
    leaving contract fault session = (⟨session.issued, .unshowable⟩, session.draw) := by
  simp [leaving, foreign, untold]

/-- What leaves is the failure of the procedure if that is of the deployer's own family, and a new
one otherwise; it is announced unless it was before or stands for what cannot be told. -/
theorem leaving_cases (contract : Contract) (fault : Fault) (session : Session) :
    (fault.failure.isOwn = true ∧ fault.token ∈ session.announced ∧
        leaving contract fault session = (fault, session)) ∨
      (fault.failure.isOwn = true ∧ fault.token ∉ session.announced ∧
        leaving contract fault session = (fault, session.announce contract fault)) ∨
      (fault.failure.isForeign = true ∧
        leaving contract fault session =
          (⟨session.issued, .deployment contract fault.failure⟩,
            session.draw.announce contract
              ⟨session.issued, .deployment contract fault.failure⟩)) ∨
      (fault.failure.isOwn = false ∧ fault.failure.hasText = false ∧
        leaving contract fault session = (⟨session.issued, .unshowable⟩, session.draw)) := by
  cases own : fault.failure.isOwn with
  | true =>
      by_cases announced : fault.token ∈ session.announced
      · exact .inl ⟨rfl, announced, leaving_announced own announced⟩
      · exact .inr (.inl ⟨rfl, announced, leaving_unannounced own announced⟩)
  | false =>
      cases told : fault.failure.hasText with
      | true =>
          have foreign := Failure.isForeign_iff.mpr ⟨own, told⟩
          exact .inr (.inr (.inl ⟨foreign, leaving_foreign foreign⟩))
      | false => exact .inr (.inr (.inr ⟨rfl, rfl, leaving_untold own told⟩))

/-- A failure that leaves is reported as that of its contract, and nothing else is. -/
theorem filterMap_leaving {β : Type} {read : Event → Option β}
    (silent : ∀ contract error, read (.contractFailed contract error) = none)
    (contract : Contract) (fault : Fault) (session : Session) :
    (leaving contract fault session).2.log.filterMap read = session.log.filterMap read := by
  obtain ⟨_, _, ends⟩ | ⟨_, _, ends⟩ | ⟨_, ends⟩ | ⟨_, _, ends⟩ :=
    leaving_cases contract fault session
  all_goals simp [ends, silent]

theorem leaving_book (contract : Contract) (fault : Fault) (session : Session) :
    (leaving contract fault session).2.book = session.book := by
  obtain ⟨_, _, ends⟩ | ⟨_, _, ends⟩ | ⟨_, ends⟩ | ⟨_, _, ends⟩ :=
    leaving_cases contract fault session
  all_goals simp [ends]

theorem report_apply {α : Type} (contract : Contract) (fault : Fault) (session : Session) :
    (report contract fault : Procedure α) session =
      .error fault (session.announce contract fault) := rfl

theorem announce_apply {α : Type} (contract : Contract) (fault : Fault) (session : Session) :
    (announce contract fault : Procedure α) session =
      .error (leaving contract fault session).1 (leaving contract fault session).2 := by
  rw [announce, leaving]
  cases fault.failure.isOwn with
  | true =>
      by_cases announced : fault.token ∈ session.announced
      · simp [bind_apply, get_apply, announced, throw_apply]
      · simp [bind_apply, get_apply, announced, report_apply]
  | false =>
      cases told : fault.failure.hasText with
      | true =>
          rw [Failure.ofCause, told]
          rfl
      | false =>
          rw [Failure.ofCause, told]
          rfl

theorem perform_apply (contract : Contract) (procedure : Procedure Value) (session : Session) :
    perform contract procedure session =
      match procedure session with
      | .ok value session => record contract value session
      | .error fault session => .error fault session := by
  rw [perform, bind_apply]
  cases procedure session <;> rfl

theorem perform_bind {α : Type} (contract : Contract) (first : Procedure α)
    (next : α → Procedure Value) (session : Session) :
    perform contract (first >>= next) session =
      match first session with
      | .ok value session => perform contract (next value) session
      | .error fault session => .error fault session := by
  simp only [perform_apply, bind_apply]
  cases first session <;> rfl

theorem deploy_known {contract : Contract} {session : Session} {address : Address}
    (known : session.book.lookup contract = some address) (procedure : Procedure Value) :
    deploy contract procedure session =
      .ok address (session.report (.contractSkipped contract.name address.text)) := by
  simp only [deploy, bind_apply, get_apply, known]
  rfl

/-- What becomes of a deployment whose procedure is over. -/
def closing (contract : Contract) :
    EStateM.Result Fault Session Address → EStateM.Result Fault Session Address
  | .ok address session =>
      .ok address (session.report (.contractDeployed contract.name address.text))
  | .error fault session =>
      .error (leaving contract fault session).1 (leaving contract fault session).2

theorem deploy_absent {contract : Contract} {session : Session}
    (absent : session.book.lookup contract = none) (procedure : Procedure Value) :
    deploy contract procedure session =
      closing contract
        (perform contract procedure (session.report (.contractStarted contract.name))) := by
  simp only [deploy, bind_apply, get_apply, absent, emit_apply, tryCatch_apply, announce_apply]
  cases perform contract procedure (session.report (.contractStarted contract.name)) <;> rfl

/-- The address that a deployment gives is the one in the book. -/
theorem lookup_of_deploy {contract : Contract} {procedure : Procedure Value}
    {before after : Session} {address : Address}
    (deployed : deploy contract procedure before = .ok address after) :
    after.book.lookup contract = some address := by
  cases lookup : before.book.lookup contract with
  | some known =>
      rw [deploy_known lookup] at deployed
      cases deployed
      exact lookup
  | none =>
      rw [deploy_absent lookup, perform_apply] at deployed
      cases result : procedure (before.report (.contractStarted contract.name)) with
      | error fault middle =>
          rw [result] at deployed
          contradiction
      | ok value middle =>
          simp only [result, record_apply] at deployed
          cases accepted : Address.ofValue value with
          | error fault =>
              rw [accepted] at deployed
              contradiction
          | ok given =>
              rw [accepted] at deployed
              cases deployed
              exact AddressBook.lookup_insert_self _ _ _

theorem perform_createContract_cases {image : CreationImage} {arguments : Option Arguments}
    {data : String} (encoded : creationData image arguments = .ok data) (contract : Contract)
    (session : Session) :
    ∃ events, (∀ event ∈ events, event.isTransaction) ∧
      ((∃ address,
          session.signer.created? (session.sent.length + 1) = some address ∧
          perform contract (createContract image arguments) session =
            .ok address
              ((session.broadcast (creation session data) events).enter contract address)) ∨
        ∃ failure : Failure, failure.isForeign = true ∧
          session.signer.created? (session.sent.length + 1) = none ∧
          perform contract (createContract image arguments) session =
            .error ⟨session.issued, failure⟩
              (session.broadcast (creation session data) events).draw) := by
  obtain ⟨events, reports, ⟨value, given, fate⟩ | ⟨failure, foreign, failed, fate⟩⟩ :=
    createContract_cases encoded session
  · refine ⟨events, reports, ?_⟩
    simp only [perform_apply, given, record_apply, fate]
    cases Address.ofValue value with
    | ok address => exact .inl ⟨address, rfl, rfl⟩
    | error fault => exact .inr ⟨.plain _, rfl, rfl, rfl⟩
  · refine ⟨events, reports, .inr ⟨failure, foreign, fate, ?_⟩⟩
    simp only [perform_apply, failed]

end Rollout.Deployer
