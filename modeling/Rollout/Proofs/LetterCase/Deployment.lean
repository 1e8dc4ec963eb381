import Rollout.Proofs.LetterCase.Basic

/-!
# Deployments in parallel

Two procedures are parallel if they lead alike sessions to alike sessions and both succeed or both
fail.  Steps that make no difference between the letter cases of an address are parallel, and so
is every procedure that is put together from parallel ones; the deployment of a light client is
one of them, since linking writes addresses in small letters.
-/

namespace Rollout

/-- Sessions that differ at most in the letter case of addresses: nothing else is known, and events
of the same kinds have been reported. -/
structure Session.Alike (left right : Session) : Prop where
  signer : left.signer.Alike right.signer
  gasLimit : left.gasLimit = right.gasLimit
  book : left.book.Alike right.book
  kinds : left.log.map Event.kind = right.log.map Event.kind
  sent : left.sent = right.sent
  issued : left.issued = right.issued
  announced : left.announced = right.announced

/-- Failures with the same token that are of the same family and name the same contract. -/
structure Fault.Alike (left right : Fault) : Prop where
  token : left.token = right.token
  own : left.failure.isOwn = right.failure.isOwn
  told : left.failure.hasText = right.failure.hasText
  contract : left.failure.contract? = right.failure.contract?

theorem Session.Alike.report {left right : Session} (alike : left.Alike right)
    {event twin : Event} (kind : event.kind = twin.kind) :
    (left.report event).Alike (right.report twin) :=
  { alike with kinds := by simp [alike.kinds, kind] }

namespace Procedure

variable {α β γ δ : Type}

/-- Both succeed with related values, or both fail with alike failures; the sessions are alike. -/
inductive AlikeResults (relation : α → β → Prop) :
    EStateM.Result Fault Session α → EStateM.Result Fault Session β → Prop
  | ok {value : α} {twin : β} {left right : Session} (related : relation value twin)
      (alike : left.Alike right) : AlikeResults relation (.ok value left) (.ok twin right)
  | error {fault other : Fault} {left right : Session} (same : fault.Alike other)
      (alike : left.Alike right) : AlikeResults relation (.error fault left) (.error other right)

theorem AlikeResults.final {relation : α → β → Prop} {first : EStateM.Result Fault Session α}
    {second : EStateM.Result Fault Session β} (results : AlikeResults relation first second) :
    (Procedure.final first).Alike (Procedure.final second) := by
  cases results <;> assumption

/-- From alike sessions, two procedures have alike results. -/
def Parallel (relation : α → β → Prop) (first : Procedure α) (second : Procedure β) : Prop :=
  ∀ left right, left.Alike right → AlikeResults relation (first left) (second right)

namespace Parallel

variable {relation : α → β → Prop} {result : γ → δ → Prop}

theorem pure {value : α} {twin : β} (related : relation value twin) :
    Parallel relation (Pure.pure value) (Pure.pure twin) :=
  fun _ _ alike => .ok related alike

theorem bind {first : Procedure α} {second : Procedure β} {next : α → Procedure γ}
    {other : β → Procedure δ} (head : Parallel relation first second)
    (tail : ∀ value twin, relation value twin → Parallel result (next value) (other twin)) :
    Parallel result (first >>= next) (second >>= other) := by
  intro left right alike
  have started := head left right alike
  rw [bind_apply, bind_apply]
  generalize first left = reached at started ⊢
  generalize second right = twin at started ⊢
  cases started with
  | ok related later => exact tail _ _ related _ _ later
  | error same later => exact .error same later

theorem tryCatch {first : Procedure α} {second : Procedure β}
    {handler : Fault → Procedure α} {other : Fault → Procedure β}
    (body : Parallel relation first second)
    (handled : ∀ fault twin, fault.Alike twin → Parallel relation (handler fault) (other twin)) :
    Parallel relation (MonadExcept.tryCatch first handler) (MonadExcept.tryCatch second other) := by
  intro left right alike
  have tried := body left right alike
  rw [tryCatch_apply, tryCatch_apply]
  generalize first left = reached at tried ⊢
  generalize second right = twin at tried ⊢
  cases tried with
  | ok related later => exact .ok related later
  | error same later => exact handled _ _ same _ _ later

theorem emit {event twin : Event} (kind : event.kind = twin.kind) :
    Parallel Eq (Procedure.emit event) (Procedure.emit twin) :=
  fun _ _ alike => .ok rfl (alike.report kind)

theorem fail {failure twin : Failure} (own : failure.isOwn = twin.isOwn)
    (told : failure.hasText = twin.hasText) (contract : failure.contract? = twin.contract?) :
    Parallel relation (Procedure.fail failure) (Procedure.fail twin) := by
  intro left right alike
  rw [fail_apply, fail_apply]
  exact .error ⟨alike.issued, own, told, contract⟩
    { alike with issued := congrArg (· + 1) alike.issued }

/-- Failures outside the deployer's own family that can be told are alike. -/
theorem fail_foreign {failure twin : Failure} (foreign : failure.isForeign = true)
    (other : twin.isForeign = true) :
    Parallel relation (Procedure.fail failure) (Procedure.fail twin) := by
  have parts : ∀ failure : Failure, failure.isForeign = true →
      failure.isOwn = false ∧ failure.hasText = true ∧ failure.contract? = none := by
    intro failure foreign
    obtain ⟨own, told⟩ := Failure.isForeign_iff.mp foreign
    refine ⟨own, told, ?_⟩
    cases failure with
    | deployment => contradiction
    | _ => rfl
  obtain ⟨own, told, contract⟩ := parts failure foreign
  obtain ⟨ownTwin, toldTwin, contractTwin⟩ := parts twin other
  exact .fail (own.trans ownTwin.symm) (told.trans toldTwin.symm)
    (contract.trans contractTwin.symm)

theorem adopt (result : Except Failure α) :
    Parallel Eq (Procedure.adopt result) (Procedure.adopt result) := by
  cases result with
  | ok value => exact .pure rfl
  | error failure => exact .fail rfl rfl rfl

end Parallel

/-! ## Creating a contract -/

section Creating

open Broadcast

theorem submit_parallel (receiver : Option String) (data : String) :
    Parallel
      (fun fate twin => fate.1 = twin.1 ∧ fate.2.1 = twin.2.1 ∧ fate.2.2.Alike twin.2.2)
      (submit receiver data) (submit receiver data) := by
  intro left right alike
  have later : (handedOver receiver data left).Alike (handedOver receiver data right) :=
    { alike with sent := by rw [handedOver, handedOver, alike.sent, alike.gasLimit] }
  have met := alike.signer.outcome (right.sent.length + 1)
  generalize leftMet : left.signer.outcome (right.sent.length + 1) = first at met
  generalize rightMet : right.signer.outcome (right.sent.length + 1) = second at met
  have count : left.sent.length = right.sent.length := congrArg List.length alike.sent
  rw [← count] at leftMet
  cases met with
  | refl =>
      cases first with
      | refused message =>
          rw [submit_refused leftMet, submit_refused rightMet]
          exact Parallel.fail rfl rfl rfl _ _ later
      | accepted hash confirmation =>
          rw [submit_accepted leftMet, submit_accepted rightMet, count]
          exact .ok ⟨rfl, rfl, .refl _⟩ later
  | accepted hash same =>
      rw [submit_accepted leftMet, submit_accepted rightMet, count]
      exact .ok ⟨rfl, rfl, same⟩ later

theorem await_parallel (n : Nat) (hash : String) {first second : Confirmation}
    (alike : first.Alike second) :
    Parallel (Option.Rel Receipt.Alike) (await n hash first) (await n hash second) := by
  cases alike with
  | refl =>
      cases first with
      | lost message => exact .fail rfl rfl rfl
      | dropped => exact .pure .none
      | mined fields =>
          exact .pure (.some (Receipt.ofFields_alike n hash (FieldAlike.refl_all fields)))
  | mined same => exact .pure (.some (Receipt.ofFields_alike n hash same))

theorem send_parallel (receiver : Option String) (data : String) (name : Option String) :
    Parallel Receipt.Alike (send receiver data name) (send receiver data name) := by
  refine (submit_parallel receiver data).bind ?_
  rintro ⟨n, hash, first⟩ ⟨_, _, second⟩ ⟨rfl, rfl, alike⟩
  refine .bind (.emit rfl) fun _ _ _ => ?_
  refine (await_parallel n hash alike).bind fun receipt twin same => ?_
  cases same with
  | none => exact .fail rfl rfl rfl
  | @some receipt twin same =>
      simp only [same.succeeded_eq]
      split
      · exact .bind (.emit rfl) fun _ _ _ => .pure same
      · exact .fail rfl rfl rfl

theorem createContract_parallel (image : CreationImage) (arguments : Option Arguments) :
    Parallel Value.Alike (createContract image arguments) (createContract image arguments) := by
  refine (Parallel.adopt _).bind ?_
  rintro data _ rfl
  refine (send_parallel none data (some image.contractName)).bind fun receipt twin same => ?_
  simp only [same.contractAddress.isGiven_eq]
  split
  · exact .pure same.contractAddress
  · exact .fail_foreign (isForeign_missingAddress _ receipt) (isForeign_missingAddress _ twin)

end Creating

/-! ## Deploying contracts -/

/-- Addresses of the same letters. -/
abbrev AddressAlike (left right : Address) : Prop := SameLetters left.text right.text

theorem record_parallel (contract : Contract) {value twin : Value} (alike : value.Alike twin) :
    Parallel AddressAlike (record contract value) (record contract twin) := by
  intro left right sessions
  rw [record_apply, record_apply]
  cases first : Address.ofValue value with
  | ok address =>
      obtain ⟨other, second, same⟩ := alike.accepted first
      rw [second]
      exact .ok same { sessions with book := sessions.book.insert contract same }
  | error fault =>
      cases second : Address.ofValue twin with
      | ok address =>
          obtain ⟨other, accepted, _⟩ := alike.symm.accepted second
          rw [first] at accepted
          contradiction
      | error other =>
          exact .error ⟨sessions.issued, rfl, rfl, rfl⟩
            { sessions with issued := congrArg (· + 1) sessions.issued }

theorem announced_alike {left right : Session} (alike : left.Alike right) (contract : Contract)
    {fault twin : Fault} (same : fault.token = twin.token) :
    (left.announce contract fault).Alike (right.announce contract twin) :=
  { alike with
    announced := congrArg₂ List.cons same alike.announced
    kinds := by simp [alike.kinds, Event.kind] }

theorem announce_parallel {α β : Type} {relation : α → β → Prop} (contract : Contract)
    {fault twin : Fault} (same : fault.Alike twin) :
    Parallel relation (Deployer.announce contract fault) (Deployer.announce contract twin) := by
  intro left right alike
  rw [Deployer.announce_apply, Deployer.announce_apply, Deployer.leaving, Deployer.leaving,
    ← same.own, ← same.told, ← same.token, ← alike.announced]
  have drawn : left.draw.Alike right.draw :=
    { alike with issued := congrArg (· + 1) alike.issued }
  split
  · split
    · exact .error same alike
    · exact .error same (announced_alike alike contract same.token)
  · split
    · exact .error ⟨alike.issued, rfl, rfl, rfl⟩ (announced_alike drawn contract alike.issued)
    · exact .error ⟨alike.issued, rfl, rfl, rfl⟩ drawn

theorem deploy_parallel (contract : Contract) {first second : Procedure Value}
    (same : Parallel Value.Alike first second) :
    Parallel AddressAlike (Deployer.deploy contract first) (Deployer.deploy contract second) := by
  have performed : Parallel AddressAlike
      (tryCatch (Deployer.perform contract first) (Deployer.announce contract))
      (tryCatch (Deployer.perform contract second) (Deployer.announce contract)) :=
    .tryCatch (same.bind fun _ _ => record_parallel contract)
      fun _ _ => announce_parallel contract
  intro left right alike
  have known := alike.book.lookup contract
  simp only [Deployer.deploy, bind_apply, get_apply]
  generalize left.book.lookup contract = address at known ⊢
  generalize right.book.lookup contract = twin at known ⊢
  cases known with
  | some same => exact .ok same (alike.report rfl)
  | none =>
      refine Parallel.bind (.emit rfl) (fun _ _ _ => ?_) left right alike
      refine performed.bind fun address other same => ?_
      exact .bind (.emit rfl) fun _ _ _ => .pure same

/-! ## Deploying light clients -/

open LightClient

theorem deployLibrary_parallel (contract : Contract) (template : Template) :
    Parallel AddressAlike (deployLibrary contract template) (deployLibrary contract template) := by
  refine (Parallel.adopt _).bind ?_
  rintro image _ rfl
  exact deploy_parallel contract (createContract_parallel image none)

/-- Linking writes an address in small letters. -/
theorem applyLink_eq (artifact : Artifact) (library : String) {address twin : Address}
    (same : AddressAlike address twin) :
    artifact.applyLink library address.text = artifact.applyLink library twin.text := by
  simp only [Artifact.applyLink, Artifact.linkLibrary, Address.ofText_text,
    Address.lowerDigits_eq same]

theorem linkAndReport_parallel (artifact : Artifact) (library : String) {address twin : Address}
    (same : AddressAlike address twin) :
    Parallel Eq (linkAndReport artifact library address)
      (linkAndReport artifact library twin) := by
  rw [linkAndReport, linkAndReport, applyLink_eq artifact library same]
  refine (Parallel.adopt _).bind ?_
  rintro linked _ rfl
  exact .bind (.emit rfl) fun _ _ _ => .pure rfl

theorem deployAndLink_parallel (variant : Variant) :
    Parallel Eq (deployAndLink variant) (deployAndLink variant) := by
  refine (deployLibrary_parallel .plonkVerifier .plonkVerifier).bind fun _ _ verifier => ?_
  refine (deployLibrary_parallel .stateUpdateVK variant.keyTemplate).bind fun _ _ key => ?_
  refine (Parallel.adopt variant.template.load).bind ?_
  rintro artifact _ rfl
  refine (linkAndReport_parallel artifact _ verifier).bind ?_
  rintro linked _ rfl
  exact linkAndReport_parallel linked _ key

theorem create_parallel (variant : Variant) (arguments : Option Arguments) :
    Parallel Value.Alike (create variant arguments) (create variant arguments) := by
  refine (deployAndLink_parallel variant).bind ?_
  rintro artifact _ rfl
  refine (Parallel.adopt artifact.resolve).bind ?_
  rintro image _ rfl
  exact createContract_parallel image arguments

end Procedure

end Rollout
