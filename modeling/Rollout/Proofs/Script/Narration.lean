import Rollout.Proofs.Script.Announcement
import Rollout.Proofs.Script.AppendOnly

/-!
# What the log says

The log of a script is told along its timeline.  A call that deploys a contract reports that it is
skipped, or opens a stretch of the log in which stands what its procedure reports and which the
call closes when it gives an address or lets a failure through for the first time; a failure that
has been announced before leaves without a closing event, and so does one that stands for a thrown
value that cannot be shown.  Entered one after the other, the deployments that are reported turn the
first book into the current one.
-/

namespace Rollout

open Procedure

/-! ## Failures that have been announced -/

namespace Departure

theorem mem_tokens_firsts {departures : List Departure} {token : Nat} :
    token ∈ (firsts departures).map Departure.token ↔
      token ∈ departures.map Departure.token := by
  constructor
  · intro member
    obtain ⟨first, known, rfl⟩ := List.mem_map.mp member
    exact List.mem_map_of_mem (mem_of_mem_firsts known)
  · intro member
    obtain ⟨departure, known, rfl⟩ := List.mem_map.mp member
    obtain ⟨first, announced, same⟩ := exists_first known
    exact same ▸ List.mem_map_of_mem announced

end Departure

/-- Whether a failure is among those that are announced in the course of some departures, which are
the ones that depart for the first time. -/
def Fault.AnnouncedIn (past : List Departure) (fault : Fault) : Prop :=
  fault.token ∈ (Departure.firsts past).map Departure.token

instance (past : List Departure) (fault : Fault) : Decidable (fault.AnnouncedIn past) :=
  inferInstanceAs (Decidable (fault.token ∈ (Departure.firsts past).map Departure.token))

/-- Whether a property holds of every call that is left among moments, given the departures
before it. -/
def EachLeft (property : List Departure → Call → Prop) (past : List Departure) :
    List Moment → Prop
  | [] => True
  | .left call :: rest =>
      property past call ∧ EachLeft property (past ++ departures [.left call]) rest
  | _ :: rest => EachLeft property past rest

section EachLeft

variable {property : List Departure → Call → Prop}

theorem eachLeft_append (past : List Departure) (first second : List Moment) :
    EachLeft property past (first ++ second) ↔
      EachLeft property past first ∧ EachLeft property (past ++ departures first) second := by
  induction first generalizing past with
  | nil => simp [EachLeft, departures]
  | cons moment rest ih =>
      cases moment with
      | left call =>
          rw [List.cons_append, EachLeft, EachLeft, ih, and_assoc, List.append_assoc,
            ← departures_append, List.singleton_append]
      | _ => exact ih past

theorem EachLeft.of_split {past : List Departure} {earlier later : List Moment} {call : Call}
    (each : EachLeft property past (earlier ++ .left call :: later)) :
    property (past ++ departures earlier) call :=
  ((eachLeft_append past earlier _).mp each).2.1

end EachLeft

/-! ## The stretches of a log -/

namespace Call

/-- The event that closes a call after some departures: that of its deployment, or that of its
failure unless this has been announced or is outside of the deployer's own family. -/
def closing (past : List Departure) (call : Call) : List Event :=
  match call.result with
  | .ok address _ => [.contractDeployed call.contract.name address.text]
  | .error fault _ =>
      if fault.failure.isOwn = false ∨ fault.AnnouncedIn past then []
      else [.contractFailed call.contract.name fault.failure.message]

/-- A call for an unknown contract that reports what its procedure reports, between the event that
opens the call and the one that closes it, if there is one. -/
structure Segment (past : List Departure) (call : Call) (inner : List Event) : Prop where
  /-- The contract is not in the book. -/
  absent : call.before.book.lookup call.contract = none
  /-- The procedure adds the inner events to the log. -/
  procedure : (final (call.procedure call.opened)).log = call.opened.log ++ inner
  /-- The call adds them with an opening event and its closing event. -/
  whole : (final call.result).log =
    call.before.log ++ (.contractStarted call.contract.name :: (inner ++ call.closing past))

/-- What a call reports: for a known contract that it is skipped, and otherwise a segment. -/
def Told (past : List Departure) (call : Call) : Prop :=
  match call.before.book.lookup call.contract with
  | some address =>
      call.result =
        .ok address (call.before.report (.contractSkipped call.contract.name address.text))
  | none => ∃ inner, call.Segment past inner

theorem closing_of_ok {call : Call} {address : Address} {session : Session}
    (given : call.result = .ok address session) (past : List Departure) :
    call.closing past = [.contractDeployed call.contract.name address.text] := by
  simp only [closing, given]

theorem closing_of_error {call : Call} {fault : Fault} {session : Session}
    (given : call.result = .error fault session) (past : List Departure) :
    call.closing past =
      if fault.failure.isOwn = false ∨ fault.AnnouncedIn past then []
      else [.contractFailed call.contract.name fault.failure.message] := by
  simp only [closing, given]

/-- To enter or to refuse an address reports nothing. -/
theorem log_attempt (call : Call) :
    (final call.attempt).log = (final (call.procedure call.opened)).log := by
  rw [attempt, Deployer.perform_apply]
  cases call.procedure call.opened with
  | error fault session => rfl
  | ok value session =>
      simp only [record_apply]
      cases Address.ofValue value <;> rfl

theorem Segment.told {past : List Departure} {call : Call} {inner : List Event}
    (segment : call.Segment past inner) : call.Told past := by
  rw [Told, segment.absent]
  exact ⟨inner, segment⟩

theorem told_of_known {call : Call} {address : Address}
    (known : call.before.book.lookup call.contract = some address) (past : List Departure) :
    call.Told past := by
  rw [Told, known]
  exact result_of_known known

end Call

/-- Moments tell events: nothing is reported between calls but progress, and a call reports that it
is skipped or surrounds what is told while its procedure runs. -/
inductive Narrates : List Departure → List Moment → List Event → Prop where
  | progress {past : List Departure} {events : List Event}
      (progress : ∀ event ∈ events, event.isProgress = true) : Narrates past [] events
  | pause {past : List Departure} (session : Session) : Narrates past [.pause session] []
  | recorded {past : List Departure} (contract : Contract) (address : Address)
      (session : Session) : Narrates past [.recorded contract address session] []
  | andThen {past : List Departure} {first second : List Moment} {events others : List Event}
      (head : Narrates past first events)
      (tail : Narrates (past ++ departures first) second others) :
      Narrates past (first ++ second) (events ++ others)
  | skipped {past : List Departure} (call : Call) {address : Address}
      (known : call.before.book.lookup call.contract = some address) :
      Narrates past [.entered call, .left call]
        [.contractSkipped call.contract.name address.text]
  | segment {past : List Departure} (call : Call) {moments : List Moment} {inner : List Event}
      (body : Narrates past moments inner)
      (segment : call.Segment (past ++ departures moments) inner) :
      Narrates past (.entered call :: (moments ++ [.left call]))
        (.contractStarted call.contract.name ::
          (inner ++ call.closing (past ++ departures moments)))

/-- Every call on a timeline that is told reports what it should. -/
theorem Narrates.told {past : List Departure} {moments : List Moment} {events : List Event}
    (narrates : Narrates past moments events) : EachLeft Call.Told past moments := by
  induction narrates with
  | progress | pause | recorded => trivial
  | andThen head tail first second => exact (eachLeft_append _ _ _).mpr ⟨first, second⟩
  | skipped call known => exact ⟨Call.told_of_known known _, trivial⟩
  | segment call body segment ih => exact (eachLeft_append _ _ _).mpr ⟨ih, segment.told, trivial⟩

theorem Session.Accounts.announcedIn_iff {past : List Departure} {flight : Option Fault}
    {session : Session} (accounts : session.Accounts past flight) (fault : Fault) :
    fault.AnnouncedIn past ↔ fault.token ∈ session.announced :=
  Departure.mem_tokens_firsts.trans (accounts.announced fault.token).symm

/-- A failure of the deployer's own family that leaves a call is reported unless it has been
announced. -/
theorem Session.Accounts.log_leaving {past : List Departure} {fault : Fault} {session : Session}
    (accounts : session.Accounts past (some fault)) (contract : Contract) :
    (Deployer.leaving contract fault session).2.log =
      session.log ++
        if (Deployer.leaving contract fault session).1.failure.isOwn = false ∨
            (Deployer.leaving contract fault session).1.AnnouncedIn past then []
        else
          [.contractFailed contract.name
            (Deployer.leaving contract fault session).1.failure.message] := by
  simp only [accounts.announcedIn_iff]
  obtain ⟨own, announced, ends⟩ | ⟨own, unannounced, ends⟩ | ⟨_, ends⟩ | ⟨_, _, ends⟩ :=
    Deployer.leaving_cases contract fault session
  · rw [ends, if_pos (.inr announced), List.append_nil]
  · rw [ends, if_neg (by simp [own, unannounced])]
    rfl
  · rw [ends, if_neg (by simp [Failure.isOwn, accounts.issued_not_mem_announced])]
    rfl
  · rw [ends, if_pos (.inl rfl), List.append_nil]
    rfl

/-- One induction on passages: what a passage adds to the log is told by its moments. -/
theorem Passage.narrates {running : List Contract} {before after : Session}
    {moments : List Moment} {thrown : Option Fault}
    (passage : Passage running before moments thrown after) {past : List Departure}
    (accounts : before.Accounts past none) :
    ∃ events, after.log = before.log ++ events ∧ Narrates past moments events := by
  induction passage generalizing past with
  | quiet quiet =>
      obtain ⟨events, grown, progress⟩ := quiet.log
      exact ⟨events, grown, .progress progress⟩
  | raise | again => exact ⟨[], (List.append_nil _).symm, .progress (by simp)⟩
  | keep name body ih => exact ih accounts
  | pause => exact ⟨[], (List.append_nil _).symm, .pause _⟩
  | andThen head tail first second =>
      obtain ⟨events, grown, narrates⟩ := first accounts
      obtain ⟨others, more, follows⟩ := second (head.accounts accounts).1
      exact ⟨events ++ others, by rw [more, grown, List.append_assoc], narrates.andThen follows⟩
  | record contract address => exact ⟨[], (List.append_nil _).symm, .recorded _ _ _⟩
  | skipped call known => exact ⟨_, rfl, .skipped call known⟩
  | @deployed call address moments middle absent body given ih =>
      -- To enter the address reports nothing, so the inner events are those of the procedure.
      obtain ⟨inner, grown, narrates⟩ := ih accounts.opened
      have result := Call.result_of_ok absent given
      have procedure := call.log_attempt
      rw [given] at procedure
      have whole : (final call.result).log =
          call.before.log ++ (.contractStarted call.contract.name ::
            (inner ++ call.closing (past ++ departures moments))) := by
        rw [Call.closing_of_ok result, result]
        simp [final, grown, Call.opened]
      have told := Narrates.segment call narrates ⟨absent, procedure.symm.trans grown, whole⟩
      rw [result] at whole
      exact ⟨_, whole, told⟩
  | @failed call fault moments middle absent body given ih =>
      obtain ⟨inner, grown, narrates⟩ := ih accounts.opened
      have ended := (body.accounts accounts.opened).1
      have result := Call.result_of_error absent given
      have procedure := call.log_attempt
      rw [given] at procedure
      have whole : (final call.result).log =
          call.before.log ++ (.contractStarted call.contract.name ::
            (inner ++ call.closing (past ++ departures moments))) := by
        rw [Call.closing_of_error result, result, final, ended.log_leaving call.contract, grown]
        simp [Call.opened]
      have told := Narrates.segment call narrates ⟨absent, procedure.symm.trans grown, whole⟩
      rw [result] at whole
      exact ⟨_, whole, told⟩

/-- What top-level actions add to the log is told by their timeline. -/
theorem Session.timeline_narrates (session : Session) (actions : List Action)
    {past : List Departure} (accounts : session.Accounts past none) :
    ∃ events, (session.afterEach actions).log = session.log ++ events ∧
      Narrates past (session.timeline actions) events := by
  induction actions generalizing session past with
  | nil => exact ⟨[], (List.append_nil _).symm, .pause session⟩
  | cons action rest ih =>
      obtain ⟨thrown, passage⟩ := session.perform_passage action
      obtain ⟨events, grown, narrates⟩ := passage.narrates accounts
      obtain ⟨others, more, follows⟩ := ih _ (passage.accounts accounts).1.settle
      refine ⟨events ++ others, ?_, narrates.andThen follows⟩
      rw [afterEach, more, grown, List.append_assoc]

/-! ## Replaying a log -/

/-- Put a text under a name, in place of the first text under that name or else last. -/
def enterText (name text : String) : List (String × String) → List (String × String)
  | [] => [(name, text)]
  | entry :: rest =>
      if entry.1 = name then (name, text) :: rest else entry :: enterText name text rest

/-- Entries after the deployments that a log reports, in order. -/
def replay (log : List Event) (entries : List (String × String)) : List (String × String) :=
  (log.filterMap Event.deployed?).foldl
    (fun entries entry => enterText entry.1 entry.2 entries) entries

/-- Whether no address is entered by hand at a moment. -/
def Moment.Unaided : Moment → Prop
  | recorded .. => False
  | _ => True

instance : DecidablePred Moment.Unaided
  | .entered _ => inferInstanceAs (Decidable True)
  | .recorded .. => inferInstanceAs (Decidable False)
  | .pause _ => inferInstanceAs (Decidable True)
  | .left _ => inferInstanceAs (Decidable True)

/-- The log of a session turns the entries of a first book into those of its own. -/
def Session.Replays (book : AddressBook) (session : Session) : Prop :=
  replay session.log (book.entries.map AddressBook.reported) =
    session.book.entries.map AddressBook.reported

theorem AddressBook.map_reported_put (contract : Contract) (address : Address)
    (entries : List (Contract × Address)) :
    (put contract address entries).map reported =
      enterText contract.name address.text (entries.map reported) := by
  induction entries with
  | nil => rfl
  | cons entry rest ih =>
      by_cases same : entry.1 = contract
      · simp [put, enterText, reported, same]
      · have apart : entry.1.name ≠ contract.name :=
          fun names => same (Contract.name_injective names)
        simp [put, enterText, reported, same, apart, ih]

namespace Session.Replays

variable {book : AddressBook} {before after : Session}

theorem start (signer : Signer) (gasLimit : Option Number) (book : AddressBook) :
    (Session.start signer gasLimit book).Replays book := rfl

/-- Neither the book nor the reported deployments change. -/
theorem keep (replays : before.Replays book) (same : after.book = before.book)
    (log : after.log.filterMap Event.deployed? = before.log.filterMap Event.deployed?) :
    after.Replays book := by
  rw [Session.Replays, replay, log, same]
  exact replays

/-- An address is entered and reported as deployed. -/
theorem deploy (replays : before.Replays book) (contract : Contract) (address : Address) :
    ((before.enter contract address).report
      (.contractDeployed contract.name address.text)).Replays book := by
  have entered := AddressBook.map_reported_put contract address before.book.entries
  rw [Session.Replays, replay] at replays
  simp [Session.Replays, replay, Event.deployed?, replays, entered]

theorem opened {call : Call} (replays : call.before.Replays book) : call.opened.Replays book :=
  replays.keep rfl (by simp [Call.opened, Event.deployed?])

theorem leave {fault : Fault} (replays : before.Replays book) (contract : Contract) :
    (Deployer.leaving contract fault before).2.Replays book :=
  replays.keep (Deployer.leaving_book _ _ _) (Deployer.filterMap_leaving (fun _ _ => rfl) _ _ _)

/-- The moments of a call around those of its procedure. -/
theorem around {call : Call} {moments : List Moment} (replays : call.before.Replays book)
    (inner : ∀ moment ∈ moments, moment.session.Replays book)
    (ended : (final call.result).Replays book) :
    ∀ moment ∈ .entered call :: (moments ++ [.left call]), moment.session.Replays book := by
  intro moment member
  rw [List.mem_cons, List.mem_append, List.mem_singleton] at member
  rcases member with rfl | early | rfl
  · exact replays
  · exact inner moment early
  · exact ended

end Session.Replays

/-- One induction on passages: the book changes at the end of a call that is reported as deployed,
and nowhere else when nothing is entered by hand. -/
theorem Passage.replays {running : List Contract} {before after : Session}
    {moments : List Moment} {thrown : Option Fault} {book : AddressBook}
    (passage : Passage running before moments thrown after)
    (unaided : ∀ moment ∈ moments, moment.Unaided) (replays : before.Replays book) :
    after.Replays book ∧ ∀ moment ∈ moments, moment.session.Replays book := by
  induction passage with
  | quiet quiet =>
      exact ⟨replays.keep quiet.book (quiet.filterMap_log Event.deployed?_of_progress), by simp⟩
  | raise | again => exact ⟨replays, by simp⟩
  | keep name body ih => exact ih unaided replays
  | pause => exact ⟨replays, fun moment member => List.mem_singleton.mp member ▸ replays⟩
  | andThen head tail first second =>
      rw [List.forall_mem_append] at unaided
      obtain ⟨middle, early⟩ := first unaided.1 replays
      obtain ⟨ended, late⟩ := second unaided.2 middle
      exact ⟨ended, List.forall_mem_append.mpr ⟨early, late⟩⟩
  | record contract address => exact (unaided _ List.mem_cons_self).elim
  | @skipped call address known =>
      have ended :
          (call.before.report (.contractSkipped call.contract.name address.text)).Replays book :=
        replays.keep rfl (by simp [Event.deployed?])
      have inner : ∀ moment ∈ ([] : List Moment), moment.session.Replays book := by simp
      refine ⟨ended, replays.around inner ?_⟩
      rw [Call.result_of_known known]
      exact ended
  | deployed call absent body given ih =>
      obtain ⟨middle, inner⟩ := ih (fun moment member => unaided moment (by simp [member]))
        replays.opened
      refine ⟨middle.deploy _ _, replays.around inner ?_⟩
      rw [Call.result_of_ok absent given]
      exact middle.deploy _ _
  | failed call absent body given ih =>
      obtain ⟨middle, inner⟩ := ih (fun moment member => unaided moment (by simp [member]))
        replays.opened
      refine ⟨middle.leave _, replays.around inner ?_⟩
      rw [Call.result_of_error absent given]
      exact middle.leave _

/-- At every moment of top-level actions, and when they are over, the log replays to the book. -/
theorem Session.timeline_replays (session : Session) (actions : List Action)
    {book : AddressBook}
    (unaided : ∀ moment ∈ session.timeline actions, moment.Unaided)
    (replays : session.Replays book) :
    (session.afterEach actions).Replays book ∧
      ∀ moment ∈ session.timeline actions, moment.session.Replays book := by
  induction actions generalizing session with
  | nil => exact ⟨replays, fun moment member => List.mem_singleton.mp member ▸ replays⟩
  | cons action rest ih =>
      rw [timeline, List.forall_mem_append] at unaided
      obtain ⟨thrown, passage⟩ := session.perform_passage action
      obtain ⟨middle, early⟩ := passage.replays unaided.1 replays
      obtain ⟨ended, late⟩ := ih _ unaided.2 middle
      exact ⟨ended, List.forall_mem_append.mpr ⟨early, late⟩⟩

/-- A log tells what happened on a timeline, and replays to the book. -/
structure FaithfulLog (book : AddressBook) (timeline : List Moment) (last : Session) : Prop where
  /-- The timeline tells the whole log. -/
  narrated : Narrates [] timeline last.log
  /-- Every call reports that it is skipped or a segment of its own. -/
  told :
    ∀ earlier call later, timeline = earlier ++ .left call :: later →
      call.Told (departures earlier)
  /-- At any moment, the deployments that the log reports lead from the first entries to the
  current ones. -/
  replayed : ∀ moment ∈ timeline, moment.session.Replays book
  /-- So they do at the end. -/
  settled : last.Replays book

/-- Without entries by hand, the log of top-level actions is well nested and replays to the
book. -/
theorem log_nests_and_replays (signer : Signer) (gasLimit : Option Number) (book : AddressBook)
    (actions : List Action)
    (unaided :
      ∀ moment ∈ (Session.start signer gasLimit book).timeline actions, moment.Unaided) :
    FaithfulLog book ((Session.start signer gasLimit book).timeline actions)
      ((Session.start signer gasLimit book).afterEach actions) := by
  obtain ⟨events, grown, narrates⟩ :=
    Session.timeline_narrates _ actions (Session.Accounts.start signer gasLimit book)
  obtain ⟨settled, replayed⟩ :=
    Session.timeline_replays _ actions unaided (Session.Replays.start signer gasLimit book)
  have silent : (Session.start signer gasLimit book).log = [] := rfl
  rw [silent, List.nil_append] at grown
  subst grown
  refine ⟨narrates, fun earlier call later split => ?_, replayed, settled⟩
  have told := narrates.told
  rw [split] at told
  exact told.of_split

/-- The light client is deployed while its own deployment is under way, which then fails with a
failure that has been announced before; the light client is known from then on. -/
def cyclicScript : List Action :=
  [.deploy .lightClient
      [.attempt "lost" [.deploy .stateUpdateVK [.fail (.plain "lost")]],
        .deploy .lightClient [.create ⟨"Library", "0x00"⟩ none],
        .failAgain "lost"],
    .production]

theorem log_nests_and_replays_cyclic :
    (∀ moment ∈ (Session.start obligingSigner none .empty).timeline cyclicScript,
        moment.Unaided) ∧
      FaithfulLog .empty ((Session.start obligingSigner none .empty).timeline cyclicScript)
        ((Session.start obligingSigner none .empty).afterEach cyclicScript) := by
  have unaided : ∀ moment ∈ (Session.start obligingSigner none .empty).timeline cyclicScript,
      moment.Unaided := by decide +kernel
  exact ⟨unaided, log_nests_and_replays obligingSigner none .empty cyclicScript unaided⟩

/-- A deployment that fails with what has not been announced before need not be closed: it is not if
a value is thrown that cannot be shown. -/
theorem unshowable_leaves_open :
    let session := Session.start obligingSigner none .empty
    (∀ moment ∈ session.timeline unshowableScript, moment.Unaided) ∧
      (session.perform unshowableScript).1 = .error .unshowable ∧
      (session.afterEach unshowableScript).announced = [] ∧
      (session.afterEach unshowableScript).log = [.contractStarted "PlonkVerifier"] :=
  ⟨by decide +kernel, rfl, rfl, rfl⟩

end Rollout
