import Mathlib.Data.List.Nodup
import Rollout.Proofs.AddressBook
import Rollout.Proofs.Script.Passage

/-!
# Each contract at most once

As long as no address is entered by hand and no deployment of a contract calls for that contract
again, the address book only grows at its end.  Each new entry comes from exactly one deployment,
and a deployment that fails leaves the book without its contract.
-/

namespace Rollout

open Procedure

/-- Whether neither an address is entered by hand nor a contract called for that is under way. -/
def Moment.Orderly : Moment → Prop
  | entered call => call.contract ∉ call.running
  | recorded .. => False
  | pause _ => True
  | left _ => True

instance : DecidablePred Moment.Orderly
  | .entered call => inferInstanceAs (Decidable (call.contract ∉ call.running))
  | .recorded .. => inferInstanceAs (Decidable False)
  | .pause _ => inferInstanceAs (Decidable True)
  | .left _ => inferInstanceAs (Decidable True)

/-- Whether a call that is over has left its contract as it should: in the book under the address
that it gives, or absent if it failed. -/
def Moment.Settled : Moment → Prop
  | left call =>
      (final call.result).book.lookup call.contract =
        match call.result with
        | .ok address _ => some address
        | .error _ _ => none
  | _ => True

/-- The contract and the address of which an event reports that they were deployed. -/
def Event.deployed? : Event → Option (String × String)
  | contractDeployed contract address => some (contract, address)
  | _ => none

/-- What the event of a deployment says about a new entry. -/
def AddressBook.reported (entry : Contract × Address) : String × String :=
  (entry.1.name, entry.2.text)

namespace Session

/-- The later book begins with all of the earlier one. -/
def Precedes (earlier later : Session) : Prop := earlier.book.entries <+: later.book.entries

theorem Precedes.refl (session : Session) : session.Precedes session := List.prefix_rfl

theorem Precedes.trans {first second third : Session} (head : first.Precedes second)
    (tail : second.Precedes third) : first.Precedes third :=
  List.IsPrefix.trans head tail

theorem Precedes.of_book {earlier later : Session} (same : later.book = earlier.book) :
    earlier.Precedes later := by
  unfold Precedes
  exact same ▸ List.prefix_rfl

/-- The entries that are added while some contracts are under way: each of another contract, new to
the book, and reported as deployed. -/
structure Growth (running : List Contract) (before after : Session)
    (added : List (Contract × Address)) : Prop where
  /-- The entries come last. -/
  entries : after.book.entries = before.book.entries ++ added
  /-- Each of them is reported, and nothing else is. -/
  deployments :
    after.log.filterMap Event.deployed? =
      before.log.filterMap Event.deployed? ++ added.map AddressBook.reported
  /-- No contract is added twice. -/
  nodup : (added.map Prod.fst).Nodup
  /-- No contract is added that has an entry. -/
  fresh : ∀ contract ∈ added.map Prod.fst, before.book.lookup contract = none
  /-- No contract is added that is under way. -/
  free : ∀ contract ∈ added.map Prod.fst, contract ∉ running

namespace Growth

variable {running : List Contract} {before middle after : Session}
  {added later : List (Contract × Address)}

theorem idle (book : after.book = before.book)
    (log : after.log.filterMap Event.deployed? = before.log.filterMap Event.deployed?) :
    Growth running before after [] where
  entries := by simp [book]
  deployments := by simp [log]
  nodup := by simp
  fresh := by simp
  free := by simp

theorem precedes (growth : Growth running before after added) : before.Precedes after :=
  ⟨added, growth.entries.symm⟩

theorem lookup_of_running (growth : Growth running before after added) {contract : Contract}
    (member : contract ∈ running) : after.book.lookup contract = before.book.lookup contract := by
  have absent : AddressBook.lookup ⟨added⟩ contract = none :=
    AddressBook.lookup_eq_none_iff.mpr fun given => growth.free contract given member
  have split := AddressBook.lookup_append before.book.entries added contract
  rw [← growth.entries, absent, Option.or_none] at split
  exact split

/-- What is free of more contracts is free of fewer. -/
theorem leave {contract : Contract} (growth : Growth (contract :: running) before after added) :
    Growth running before after added :=
  { growth with
    free := fun other member given =>
      growth.free other member (List.mem_cons_of_mem contract given) }

theorem trans (head : Growth running before middle added)
    (tail : Growth running middle after later) :
    Growth running before after (added ++ later) where
  entries := by rw [tail.entries, head.entries, List.append_assoc]
  deployments := by rw [tail.deployments, head.deployments, List.map_append, List.append_assoc]
  nodup := by
    rw [List.map_append, List.nodup_append]
    refine ⟨head.nodup, tail.nodup, ?_⟩
    rintro contract early _ late rfl
    have unknown := AddressBook.lookup_eq_none_iff.mp (tail.fresh contract late)
    apply unknown
    rw [AddressBook.contracts, head.entries, List.map_append]
    exact List.mem_append_right _ early
  fresh := by
    intro contract member
    rw [List.map_append, List.mem_append] at member
    rcases member with early | late
    · exact head.fresh contract early
    · have unknown := tail.fresh contract late
      cases known : before.book.lookup contract with
      | none => rfl
      | some address =>
          rw [AddressBook.lookup_of_prefix head.precedes known] at unknown
          contradiction
  free := by
    intro contract member
    rw [List.map_append, List.mem_append] at member
    rcases member with early | late
    · exact head.free contract early
    · exact tail.free contract late

theorem lookup_of_head {contract : Contract}
    (growth : Growth (contract :: running) before after added)
    (absent : before.book.lookup contract = none) : after.book.lookup contract = none := by
  rw [growth.lookup_of_running List.mem_cons_self, absent]

/-- A contract under way may be added once its procedure is over. -/
theorem enter {contract : Contract} (growth : Growth (contract :: running) before after added)
    (absent : before.book.lookup contract = none) (idle : contract ∉ running)
    (address : Address) :
    Growth running before
      ((after.enter contract address).report (.contractDeployed contract.name address.text))
      (added ++ [(contract, address)]) := by
  have still := growth.lookup_of_head absent
  refine growth.leave.trans ⟨?_, ?_, ?_, ?_, ?_⟩
  · exact AddressBook.entries_insert_of_absent still address
  · simp [Event.deployed?, AddressBook.reported]
  · simp
  · simpa using still
  · simpa using idle

end Growth

/-- The book grows from each moment to the next, and no call leaves anything unsettled. -/
structure Ascent (before : Session) (moments : List Moment) (after : Session) : Prop where
  /-- The book grows from the beginning to the end. -/
  whole : before.Precedes after
  /-- No moment precedes the beginning. -/
  above : ∀ moment ∈ moments, before.Precedes moment.session
  /-- The end precedes no moment. -/
  below : ∀ moment ∈ moments, moment.session.Precedes after
  /-- Earlier moments precede later ones. -/
  ordered : moments.Pairwise fun earlier later => earlier.session.Precedes later.session
  /-- Every call is settled when it is over. -/
  settled : ∀ moment ∈ moments, moment.Settled

namespace Ascent

variable {before middle after : Session} {first second : List Moment} {moment : Moment}

theorem idle (whole : before.Precedes after) : Ascent before [] after :=
  ⟨whole, by simp, by simp, by simp, by simp⟩

theorem single (above : before.Precedes moment.session) (below : moment.session.Precedes after)
    (settled : moment.Settled) : Ascent before [moment] after :=
  ⟨above.trans below, by simpa, by simpa, by simp, by simpa⟩

theorem append (head : Ascent before first middle) (tail : Ascent middle second after) :
    Ascent before (first ++ second) after where
  whole := head.whole.trans tail.whole
  above := by
    intro moment member
    rcases List.mem_append.mp member with early | late
    · exact head.above moment early
    · exact head.whole.trans (tail.above moment late)
  below := by
    intro moment member
    rcases List.mem_append.mp member with early | late
    · exact (head.below moment early).trans tail.whole
    · exact tail.below moment late
  ordered := by
    refine List.pairwise_append.mpr ⟨head.ordered, tail.ordered, ?_⟩
    intro earlier early later late
    exact (head.below earlier early).trans (tail.above later late)
  settled := by
    intro moment member
    rcases List.mem_append.mp member with early | late
    · exact head.settled moment early
    · exact tail.settled moment late

/-- The moments of a call around those of its procedure. -/
theorem call (call : Call) {moments : List Moment} (body : Ascent call.opened moments middle)
    (last : middle.Precedes (final call.result)) (settled : Moment.Settled (.left call)) :
    Ascent call.before (.entered call :: (moments ++ [.left call])) (final call.result) := by
  have opening : call.before.Precedes call.opened := .of_book rfl
  have entry : Ascent call.before [.entered call] call.opened :=
    .single (.refl call.before) opening trivial
  have departure : Ascent middle [.left call] (final call.result) :=
    .single last (.refl _) settled
  exact entry.append (body.append departure)

end Ascent

end Session

theorem Event.deployed?_of_progress (event : Event) (progress : event.isProgress = true) :
    event.deployed? = none := by
  cases event <;> simp_all [isProgress, isTransaction, deployed?]

namespace Session

/-- What an orderly stretch of a timeline does to a session. -/
structure Advance (running : List Contract) (before : Session) (moments : List Moment)
    (after : Session) : Prop where
  /-- The book gains entries at its end, each from one deployment. -/
  growth : ∃ added, Growth running before after added
  /-- The book grows from moment to moment. -/
  ascent : Ascent before moments after

namespace Advance

variable {running : List Contract} {before middle after : Session} {first second : List Moment}

theorem idle (book : after.book = before.book)
    (log : after.log.filterMap Event.deployed? = before.log.filterMap Event.deployed?) :
    Advance running before [] after :=
  ⟨⟨[], .idle book log⟩, .idle (.of_book book)⟩

theorem append (head : Advance running before first middle)
    (tail : Advance running middle second after) :
    Advance running before (first ++ second) after := by
  obtain ⟨added, early⟩ := head.growth
  obtain ⟨later, late⟩ := tail.growth
  exact ⟨⟨added ++ later, early.trans late⟩, head.ascent.append tail.ascent⟩

/-- Neither what is kept nor what is announced is seen in the book. -/
theorem extend (advance : Advance running before first middle) (book : after.book = middle.book)
    (log : after.log.filterMap Event.deployed? = middle.log.filterMap Event.deployed?) :
    Advance running before first after := by
  have extended := advance.append (.idle book log)
  rwa [List.append_nil] at extended

theorem deployed {call : Call} {address : Address}
    (inner : Advance (call.contract :: call.running) call.opened first middle)
    (absent : call.before.book.lookup call.contract = none)
    (idle : call.contract ∉ call.running)
    (given : call.attempt = .ok address (middle.enter call.contract address)) :
    Advance call.running call.before (.entered call :: (first ++ [.left call]))
      ((middle.enter call.contract address).report
        (.contractDeployed call.contract.name address.text)) := by
  obtain ⟨added, growth⟩ := inner.growth
  have still := growth.lookup_of_head absent
  have ends := Call.result_of_ok absent given
  have opening : Growth call.running call.before call.opened [] :=
    .idle rfl (by simp [Call.opened, Event.deployed?])
  refine ⟨⟨_, opening.trans (growth.enter absent idle address)⟩, ?_⟩
  have around := inner.ascent.call call ?_ ?_
  · rwa [ends] at around
  · rw [ends]
    exact ⟨_, (AddressBook.entries_insert_of_absent still address).symm⟩
  · rw [Moment.Settled, ends]
    exact AddressBook.lookup_insert_self middle.book call.contract address

theorem failed {call : Call} {fault : Fault}
    (inner : Advance (call.contract :: call.running) call.opened first middle)
    (absent : call.before.book.lookup call.contract = none)
    (given : call.attempt = .error fault middle) :
    Advance call.running call.before (.entered call :: (first ++ [.left call]))
      (Deployer.leaving call.contract fault middle).2 := by
  obtain ⟨added, growth⟩ := inner.growth
  have still := growth.lookup_of_head absent
  have ends := Call.result_of_error absent given
  have opening : Growth call.running call.before call.opened [] :=
    .idle rfl (by simp [Call.opened, Event.deployed?])
  have closing :
      Growth call.running middle (Deployer.leaving call.contract fault middle).2 [] :=
    .idle (Deployer.leaving_book _ _ _)
      (Deployer.filterMap_leaving (fun _ _ => rfl) call.contract fault middle)
  refine ⟨⟨_, opening.trans (growth.leave.trans closing)⟩, ?_⟩
  have around := inner.ascent.call call ?_ ?_
  · rwa [ends] at around
  · rw [ends]
    exact closing.precedes
  · rw [Moment.Settled, ends]
    change (Deployer.leaving call.contract fault middle).2.book.lookup call.contract = none
    rw [Deployer.leaving_book]
    exact still

theorem skipped {call : Call} {address : Address}
    (known : call.before.book.lookup call.contract = some address) :
    Advance call.running call.before [.entered call, .left call]
      (call.before.report (.contractSkipped call.contract.name address.text)) := by
  have ends := Call.result_of_known known
  refine ⟨⟨[], .idle rfl (by simp [Event.deployed?])⟩, ?_⟩
  have nothing : Ascent call.opened [] call.opened := .idle (.refl _)
  have around := nothing.call call ?_ ?_
  · rwa [ends] at around
  · rw [ends]
    exact .of_book rfl
  · rw [Moment.Settled, ends]
    exact known

end Advance

end Session

/-- One induction on passages: the rules that change the book are the end of a deployment, which is
orderly, and an entry by hand, which is not. -/
theorem Passage.advance {running : List Contract} {before after : Session}
    {moments : List Moment} {thrown : Option Fault}
    (passage : Passage running before moments thrown after)
    (orderly : ∀ moment ∈ moments, moment.Orderly) :
    Session.Advance running before moments after := by
  induction passage with
  | quiet quiet =>
      exact .idle quiet.book (quiet.filterMap_log Event.deployed?_of_progress)
  | raise failure => exact .idle rfl rfl
  | again kept => exact .idle rfl rfl
  | keep name body ih => exact (ih orderly).extend rfl rfl
  | pause => exact ⟨⟨[], .idle rfl rfl⟩, .single (.refl _) (.refl _) trivial⟩
  | andThen head tail first second =>
      rw [List.forall_mem_append] at orderly
      exact (first orderly.1).append (second orderly.2)
  | record contract address => exact (orderly _ List.mem_cons_self).elim
  | skipped call known => exact .skipped known
  | deployed call absent body given ih =>
      have inner := ih fun moment member => orderly moment (by simp [member])
      exact inner.deployed absent (orderly _ List.mem_cons_self) given
  | failed call absent body given ih =>
      have inner := ih fun moment member => orderly moment (by simp [member])
      exact inner.failed absent given

/-- Top-level actions advance from each to the next, whether they fail or not. -/
theorem Session.timeline_advance (session : Session) (actions : List Action)
    (orderly : ∀ moment ∈ session.timeline actions, moment.Orderly) :
    Session.Advance [] session (session.timeline actions) (session.afterEach actions) := by
  induction actions generalizing session with
  | nil => exact Passage.pause.advance orderly
  | cons action rest ih =>
      rw [timeline, List.forall_mem_append] at orderly
      obtain ⟨thrown, passage⟩ := session.perform_passage action
      exact (passage.advance orderly.1).append (ih _ orderly.2)

/-- The contracts that a log reports as deployed, in order. -/
def Event.deployedIn (log : List Event) : List String :=
  (log.filterMap Event.deployed?).map Prod.fst

/-- Each contract is deployed at most once between a first book and a last session, and the book
only grows along the timeline in between. -/
structure OnceEach (book : AddressBook) (timeline : List Moment) (last : Session) : Prop where
  /-- No contract is reported as deployed twice. -/
  unrepeated : (Event.deployedIn last.log).Nodup
  /-- No contract of the first book is reported as deployed. -/
  unseeded : ∀ contract, contract.name ∈ Event.deployedIn last.log → book.lookup contract = none
  /-- The entries at any moment begin with those at any earlier moment. -/
  appended :
    timeline.Pairwise fun earlier later =>
      earlier.session.book.entries <+: later.session.book.entries
  /-- The entries at any moment begin with the first ones, and the last ones begin with them. -/
  between :
    ∀ moment ∈ timeline,
      book.entries <+: moment.session.book.entries ∧
        moment.session.book.entries <+: last.book.entries
  /-- A call that succeeds gives the address that the book has and keeps. -/
  returned :
    ∀ call address session, .left call ∈ timeline → call.result = .ok address session →
      session.book.lookup call.contract = some address ∧
        last.book.lookup call.contract = some address
  /-- A call that fails leaves its contract out of the book, and what was deployed before it ends
  in the book. -/
  isolated :
    ∀ earlier call later fault session, timeline = earlier ++ .left call :: later →
      call.result = .error fault session →
        session.book.lookup call.contract = none ∧
          ∀ inner address after, .left inner ∈ earlier → inner.result = .ok address after →
            session.book.lookup inner.contract = some address

theorem Session.Growth.deployedIn_eq {running : List Contract} {before after : Session}
    {added : List (Contract × Address)} (growth : Growth running before after added)
    (silent : before.log = []) :
    Event.deployedIn after.log = (added.map Prod.fst).map Contract.name := by
  rw [Event.deployedIn, growth.deployments, silent]
  simp [AddressBook.reported]

/-- Without entries by hand and without calls for a contract that is under way, top-level actions
deploy each contract at most once and only add to the book. -/
theorem deploys_each_contract_once (signer : Signer) (gasLimit : Option Number)
    (book : AddressBook) (actions : List Action)
    (orderly :
      ∀ moment ∈ (Session.start signer gasLimit book).timeline actions, moment.Orderly) :
    OnceEach book ((Session.start signer gasLimit book).timeline actions)
      ((Session.start signer gasLimit book).afterEach actions) := by
  obtain ⟨⟨added, growth⟩, ascent⟩ := Session.timeline_advance _ actions orderly
  have deployed := growth.deployedIn_eq rfl
  have settled_ok : ∀ call address session,
      .left call ∈ (Session.start signer gasLimit book).timeline actions →
      call.result = .ok address session →
        session.book.lookup call.contract = some address := by
    intro call address session member result
    have settled := ascent.settled _ member
    rw [Moment.Settled, result] at settled
    exact settled
  refine ⟨?_, ?_, ascent.ordered, ?_, ?_, ?_⟩
  · rw [deployed]
    exact growth.nodup.map Contract.name_injective
  · intro contract member
    rw [deployed, List.mem_map_of_injective Contract.name_injective] at member
    exact growth.fresh contract member
  · exact fun moment member => ⟨ascent.above moment member, ascent.below moment member⟩
  · intro call address session member result
    have known := settled_ok call address session member result
    have below := ascent.below _ member
    rw [Moment.session, result] at below
    exact ⟨known, AddressBook.lookup_of_prefix below known⟩
  · intro earlier call later fault session split result
    have member : Moment.left call ∈ (Session.start signer gasLimit book).timeline actions := by
      rw [split]
      exact List.mem_append_right _ List.mem_cons_self
    refine ⟨?_, ?_⟩
    · have settled := ascent.settled _ member
      rw [Moment.Settled, result] at settled
      exact settled
    · intro inner address after early given
      have known := settled_ok inner address after (split ▸ List.mem_append_left _ early) given
      have ordered := ascent.ordered
      rw [split, List.pairwise_append] at ordered
      have grown := ordered.2.2 _ early _ List.mem_cons_self
      rw [Moment.session, Moment.session, given, result] at grown
      exact AddressBook.lookup_of_prefix grown known

/-- The light client is given up when its verification key fails for the second time with the
refusal of the verifier, and then deployed with the verifier that is there already. -/
def retriedScript : List Action :=
  let image : CreationImage := ⟨"Library", "0x00"⟩
  [.deploy .lightClient
      [.attempt "refusal" [.broadcast .plonkVerifier image none],
        .broadcast .plonkVerifier image none,
        .deploy .stateUpdateVK [.failAgain "refusal"]],
    .deploy .lightClient
      [.broadcast .plonkVerifier image none, .broadcast .stateUpdateVK image none,
        .create image none]]

/-- A signer that refuses the first transaction and takes all others. -/
def reluctantSigner : Signer :=
  ⟨Signer.usualAddress, Signer.usualChainId, true, [.refused "busy"]⟩

theorem deploys_each_contract_once_retried :
    (∀ moment ∈ (Session.start reluctantSigner none .empty).timeline retriedScript,
        moment.Orderly) ∧
      OnceEach .empty ((Session.start reluctantSigner none .empty).timeline retriedScript)
        ((Session.start reluctantSigner none .empty).afterEach retriedScript) := by
  have orderly : ∀ moment ∈ (Session.start reluctantSigner none .empty).timeline retriedScript,
      moment.Orderly := by decide +kernel
  exact ⟨orderly, deploys_each_contract_once reluctantSigner none .empty retriedScript orderly⟩

end Rollout
