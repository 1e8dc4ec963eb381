import Rollout.Proofs.LightClient.Progress

/-!
# Deployment of the light client

A deployment creates what is missing of the proof verifier, the verification key and the light
client, in this order.  When both libraries are there, they are the ones that the light client is
linked with.
-/

namespace Rollout.LightClient

open Procedure Broadcast

/-- The contracts of a list that are not in a book. -/
def unknown (book : AddressBook) (contracts : List Contract) : List Contract :=
  contracts.filter fun contract => (book.lookup contract).isNone

/-- The contracts that a deployment has to create: none if the light client is known. -/
def missing (book : AddressBook) : List Contract :=
  if (book.lookup .lightClient).isSome then []
  else unknown book [.plonkVerifier, .stateUpdateVK, .lightClient]

variable {variant : Variant} {arguments : Option Arguments}

theorem unknown_of_known {book : AddressBook} {contract : Contract} {address : Address}
    (known : book.lookup contract = some address) : unknown book [contract] = [] := by
  simp [unknown, known]

theorem unknown_of_absent {book : AddressBook} {contract : Contract}
    (absent : book.lookup contract = none) : unknown book [contract] = [contract] := by
  simp [unknown, absent]

theorem creation_carried {contract : Contract} {image : CreationImage}
    {given : Option Arguments} {data : String} {before : Session}
    (absent : before.book.lookup contract = none) (encoded : creationData image given = .ok data)
    (handed : isSent arguments contract = true)
    (creates : Creates variant arguments before.gasLimit contract (creation before data)) :
    Carried variant arguments [contract] before
      (Deployer.closing contract
        (Deployer.perform contract (createContract image given) before)) := by
  obtain ⟨events, _, ⟨address, made, result⟩ | ⟨_, foreign, failed, result⟩⟩ :=
    Deployer.perform_createContract_cases encoded contract before
  · have attempted : attempt before.signer arguments contract (before.sent.length + 1) =
        some address := by
      rw [attempt, if_pos handed, made]
    rw [result]
    refine .through ⟨rfl, rfl, ⟨[creation before data], rfl, .cons creates .nil⟩, ?_, ?_⟩
    · rw [creations_single attempted]
      exact AddressBook.entries_insert_of_absent absent address
    · rw [creations_single attempted]
      rfl
  · have attempted : attempt before.signer arguments contract (before.sent.length + 1) = none := by
      rw [attempt, if_pos handed, failed]
    have sent : [contract].filter (isSent arguments) = [contract] := by simp [handed]
    rw [result, Deployer.closing, Deployer.leaving_foreign foreign]
    refine @Carried.halted _ _ _ [] [] contract before before _ [creation before data] _ _
      (.idle rfl rfl rfl rfl) attempted rfl rfl ?_ List.mem_cons_self
    rw [sent]
    exact .cons creates .nil

theorem deployLibrary_carried {contract : Contract} {template : Template}
    (library : template ∈ libraries) {before : Session}
    (handed : isSent arguments contract = true)
    (creates : Creates variant arguments before.gasLimit contract
      (creation before template.object)) :
    Carried variant arguments (unknown before.book [contract]) before
      (deployLibrary contract template before) := by
  rw [deployLibrary, resolve_library library, adopt_ok, pure_bind, Deployer.deployImage]
  cases lookup : before.book.lookup contract with
  | some address =>
      rw [unknown_of_known lookup, Deployer.deploy_known lookup]
      exact .through (.idle rfl rfl rfl rfl)
  | none =>
      rw [unknown_of_absent lookup, Deployer.deploy_absent lookup]
      have absent : (before.report (.contractStarted contract.name)).book.lookup contract = none :=
        lookup
      exact .of_report (creation_carried absent (creationData_library library) handed creates)

theorem lookup_of_deployLibrary {contract : Contract} {template : Template}
    (library : template ∈ libraries) {before after : Session} {address : Address}
    (deployed : deployLibrary contract template before = .ok address after) :
    after.book.lookup contract = some address := by
  rw [deployLibrary, resolve_library library, adopt_ok, pure_bind, Deployer.deployImage] at deployed
  exact Deployer.lookup_of_deploy deployed

theorem linkAndReport_apply {artifact linked : Artifact} {library : String} {address : Address}
    (links : artifact.applyLink library address.text = .ok linked) (session : Session) :
    linkAndReport artifact library address session =
      .ok linked (session.report (.libraryLinked linked.contractName library address.text)) := by
  rw [linkAndReport, links, adopt_ok, pure_bind]
  rfl

theorem linkBoth_apply (layout : variant.Layout) (verifier key : Address) (session : Session) :
    (do
      let artifact ← adopt variant.template.load
      let artifact ← linkAndReport artifact Template.plonkVerifierLibrary verifier
      linkAndReport artifact variant.keyLibrary key : Procedure Artifact) session =
    .ok (variant.complete verifier key)
      ((session.report (.libraryLinked variant.template.name Template.plonkVerifierLibrary
          verifier.text)).report
        (.libraryLinked variant.template.name variant.keyLibrary key.text)) := by
  rw [layout.loaded, adopt_ok, pure_bind, bind_apply,
    linkAndReport_apply (layout.link_verifier verifier layout.loaded)]
  exact linkAndReport_apply (layout.link_key verifier key) _

theorem deployAndLink_carried (layout : variant.Layout) (before : Session) :
    Carried variant arguments (unknown before.book [.plonkVerifier, .stateUpdateVK]) before
      (deployAndLink variant before) := by
  have head : Carried variant arguments (unknown before.book [.plonkVerifier]) before
      (deployLibrary .plonkVerifier .plonkVerifier before) :=
    deployLibrary_carried (by decide) rfl rfl
  have split : unknown before.book [.plonkVerifier, .stateUpdateVK] =
      unknown before.book [.plonkVerifier] ++ unknown before.book [.stateUpdateVK] :=
    List.filter_append [Contract.plonkVerifier] [.stateUpdateVK]
  rw [deployAndLink, split]
  refine head.bind fun verifier middle result => ?_
  have progress : Progress variant arguments (unknown before.book [.plonkVerifier]) before
      middle := Carried.progress_of_ok (result ▸ head)
  have same : unknown middle.book [.stateUpdateVK] = unknown before.book [.stateUpdateVK] := by
    have other : Contract.stateUpdateVK ∉ unknown before.book [.plonkVerifier] := by
      simp [unknown]
    simp only [unknown, List.filter_cons, progress.lookup_of_not_mem other, List.filter_nil]
  have next : Carried variant arguments (unknown middle.book [.stateUpdateVK]) middle
      (deployLibrary .stateUpdateVK variant.keyTemplate middle) :=
    deployLibrary_carried layout.keyTemplate_library rfl rfl
  rw [← same, ← List.append_nil (unknown middle.book [.stateUpdateVK])]
  refine next.bind fun key later _ => ?_
  rw [linkBoth_apply layout verifier key later]
  exact .through (.idle rfl rfl rfl rfl)

/-- The libraries that the light client is linked with are those in the book. -/
theorem lookup_of_deployAndLink (layout : variant.Layout) {before after : Session}
    {artifact : Artifact} (linked : deployAndLink variant before = .ok artifact after) :
    ∃ verifier key, artifact = variant.complete verifier key ∧
      after.book.lookup .plonkVerifier = some verifier ∧
      after.book.lookup .stateUpdateVK = some key := by
  rw [deployAndLink, bind_apply] at linked
  cases first : deployLibrary .plonkVerifier .plonkVerifier before with
  | error fault middle =>
      rw [first] at linked
      contradiction
  | ok verifier middle =>
      simp only [first] at linked
      rw [bind_apply] at linked
      cases second : deployLibrary .stateUpdateVK variant.keyTemplate middle with
      | error fault later =>
          rw [second] at linked
          contradiction
      | ok key later =>
          simp only [second, linkBoth_apply layout verifier key later] at linked
          cases linked
          have carried : Carried variant none (unknown middle.book [.stateUpdateVK]) middle
              (deployLibrary .stateUpdateVK variant.keyTemplate middle) :=
            deployLibrary_carried layout.keyTemplate_library rfl rfl
          rw [second] at carried
          have verifier_known := carried.progress_of_ok.lookup_of_known
            (lookup_of_deployLibrary (by decide) first)
          have key_known := lookup_of_deployLibrary layout.keyTemplate_library second
          exact ⟨verifier, key, rfl, verifier_known, key_known⟩

/-- The light client itself is not created when its arguments cannot be encoded. -/
theorem image_carried (layout : variant.Layout) (arguments : Option Arguments)
    (verifier key : Address) {before : Session}
    (absent : before.book.lookup .lightClient = none) :
    Carried variant arguments [.lightClient] before
      (Deployer.closing .lightClient
        (Deployer.perform .lightClient
          (createContract (variant.image verifier key) arguments) before)) := by
  cases encoding : encodeArguments arguments with
  | ok encoded =>
      have handed : isSent arguments .lightClient = true := by
        rw [isSent, encoding]
        rfl
      exact creation_carried absent (layout.creationData_image verifier key encoding) handed
        ⟨verifier, key, encoded, encoding, rfl⟩
  | error fault =>
      have withheld : isSent arguments .lightClient = false := by
        rw [isSent, encoding]
        rfl
      have failed : attempt before.signer arguments .lightClient (before.sent.length + 1) =
          none := by
        rw [attempt, withheld, if_neg Bool.false_ne_true]
      rw [Deployer.perform_apply, createContract_unencoded (creationData_unencoded encoding _),
        Deployer.closing, Deployer.leaving_foreign rfl]
      refine @Carried.halted _ _ _ [] [] .lightClient before before _ [] _ _
        (.idle rfl rfl rfl rfl) failed rfl (List.append_nil _).symm ?_ List.mem_cons_self
      simp [withheld]

theorem create_carried (layout : variant.Layout) (arguments : Option Arguments)
    {before : Session} (absent : before.book.lookup .lightClient = none) :
    Carried variant arguments
      (unknown before.book [.plonkVerifier, .stateUpdateVK] ++ [.lightClient]) before
      (Deployer.closing .lightClient
        (Deployer.perform .lightClient (create variant arguments) before)) := by
  have libraries : Carried variant arguments
      (unknown before.book [.plonkVerifier, .stateUpdateVK]) before
      (deployAndLink variant before) := deployAndLink_carried layout before
  rw [create, Deployer.perform_bind]
  cases result : deployAndLink variant before with
  | error fault after =>
      rw [result] at libraries
      obtain ⟨own, announced⟩ := libraries.own_of_error
      rw [Deployer.closing, Deployer.leaving_announced own announced]
      exact libraries.append_of_error [.lightClient]
  | ok artifact after =>
      rw [result] at libraries
      have progress := libraries.progress_of_ok
      obtain ⟨verifier, key, rfl, _, _⟩ := lookup_of_deployAndLink layout result
      have still : after.book.lookup .lightClient = none := by
        rw [progress.lookup_of_not_mem (by simp [unknown]), absent]
      simp only [layout.resolve_complete verifier key, adopt_ok, pure_bind]
      exact Carried.after_progress progress (image_carried layout arguments verifier key still)

theorem missing_of_absent {book : AddressBook} (absent : book.lookup .lightClient = none) :
    missing book = unknown book [.plonkVerifier, .stateUpdateVK] ++ [.lightClient] := by
  rw [← unknown_of_absent absent]
  simp only [missing, absent, Option.isSome_none, Bool.false_eq_true, if_false]
  exact List.filter_append [Contract.plonkVerifier, .stateUpdateVK] [.lightClient]

theorem missing_of_known {book : AddressBook} {address : Address}
    (known : book.lookup .lightClient = some address) : missing book = [] := by
  simp [missing, known]

/-- A deployment creates what is missing, in order, up to the first contract that fails. -/
theorem deploy_carried (layout : variant.Layout) (arguments : Option Arguments)
    (before : Session) :
    Carried variant arguments (missing before.book) before
      (Deployer.deploy .lightClient (create variant arguments) before) := by
  cases lookup : before.book.lookup .lightClient with
  | some address =>
      rw [missing_of_known lookup, Deployer.deploy_known lookup]
      exact .through (.idle rfl rfl rfl rfl)
  | none =>
      let opened := before.report (.contractStarted Contract.lightClient.name)
      have absent : opened.book.lookup .lightClient = none := lookup
      rw [missing_of_absent lookup, Deployer.deploy_absent lookup]
      exact .of_report (create_carried layout arguments absent)

/-- The session in which the procedure of the light client begins. -/
def opened (before : Session) : Session :=
  before.report (.contractStarted Contract.lightClient.name)

/-- When a transaction is handed over for the light client, both libraries are linked and the
arguments are encoded. -/
theorem linked_of_attempted (layout : variant.Layout) {arguments : Option Arguments}
    {before : Session}
    (reached : .lightClient ∈
      attempted before.signer arguments (before.sent.length + 1) (missing before.book)) :
    before.book.lookup .lightClient = none ∧
      ∃ artifact after encoded, deployAndLink variant (opened before) = .ok artifact after ∧
        encodeArguments arguments = .ok encoded := by
  cases lookup : before.book.lookup .lightClient with
  | some address =>
      rw [missing_of_known lookup] at reached
      simp [attempted] at reached
  | none =>
      refine ⟨rfl, ?_⟩
      have handed : isSent arguments .lightClient = true := (List.mem_filter.mp reached).2
      obtain ⟨encoded, encoding⟩ := eq_ok_of_isOk handed
      have libraries : Carried variant arguments
          (unknown (opened before).book [.plonkVerifier, .stateUpdateVK]) (opened before)
          (deployAndLink variant (opened before)) := deployAndLink_carried layout (opened before)
      cases result : deployAndLink variant (opened before) with
      | ok artifact after => exact ⟨artifact, after, encoded, rfl, encoding⟩
      | error fault after =>
          rw [result] at libraries
          rw [missing_of_absent lookup] at reached
          have library := libraries.attempted_of_error [.lightClient] reached
          simp [unknown] at library

/-- The transaction of the light client is the last one, and only the light client is entered behind
its libraries. -/
theorem final_of_linked (layout : variant.Layout) {arguments : Option Arguments}
    {before after : Session} {verifier key : Address} {encoded : List Char}
    (absent : before.book.lookup .lightClient = none)
    (linked : deployAndLink variant (opened before) = .ok (variant.complete verifier key) after)
    (given : encodeArguments arguments = .ok encoded) :
    (final (Deployer.deploy .lightClient (create variant arguments) before)).sent =
        after.sent ++
          [creation after (String.ofList (variant.linked verifier key ++ encoded))] ∧
      ∀ contract, contract ≠ .lightClient →
        (final (Deployer.deploy .lightClient (create variant arguments) before)).book.lookup
          contract = after.book.lookup contract := by
  have data := layout.creationData_image verifier key given
  rw [opened] at linked
  rw [Deployer.deploy_absent absent, create, Deployer.perform_bind]
  simp only [linked, layout.resolve_complete verifier key, adopt_ok, pure_bind]
  obtain ⟨events, _, ⟨address, _, result⟩ | ⟨_, foreign, _, result⟩⟩ :=
    Deployer.perform_createContract_cases data .lightClient after
  · rw [result]
    refine ⟨rfl, fun contract other => ?_⟩
    exact (AddressBook.lookup_insert _ _ _ _).trans (if_neg other)
  · rw [result, Deployer.closing, Deployer.leaving_foreign foreign]
    exact ⟨rfl, fun _ _ => rfl⟩

end Rollout.LightClient
