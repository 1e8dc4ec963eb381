import Rollout.Proofs.Script.Timeline

/-!
# Passages

A passage leads from one session to another through the moments in between, with the failure that
ends it, if any.  Its rules are the few ways in which a session changes, so that what holds of
every script is proved by one induction on passages.  Every script runs along its course.
-/

namespace Rollout

open Procedure

/-- Whether an event reports what a deployment does, and not what becomes of a contract. -/
def Event.isProgress : Event → Bool
  | libraryLinked .. => true
  | event => event.isTransaction

namespace Session

/-- The session after a failure has been set aside under a name. -/
@[simps]
def keep (session : Session) (name : String) (fault : Fault) : Session :=
  { session with kept := (name, fault) :: session.kept.filter fun entry => entry.1 != name }

/-- What a session keeps when nothing but progress is reported and transactions are sent. -/
structure Quiet (before after : Session) : Prop where
  /-- The known addresses are the same. -/
  book : after.book = before.book
  /-- The same failures have been announced. -/
  announced : after.announced = before.announced
  /-- The same failures are kept. -/
  kept : after.kept = before.kept
  /-- As many tokens have been given out. -/
  issued : after.issued = before.issued
  /-- Progress has been reported. -/
  log : ∃ events, after.log = before.log ++ events ∧ ∀ event ∈ events, event.isProgress = true

theorem Quiet.refl (session : Session) : session.Quiet session :=
  ⟨rfl, rfl, rfl, rfl, [], by simp, by simp⟩

/-- What is read off the log of anything but progress stays the same. -/
theorem Quiet.filterMap_log {β : Type} {read : Event → Option β} {before after : Session}
    (quiet : before.Quiet after)
    (silent : ∀ event : Event, event.isProgress = true → read event = none) :
    after.log.filterMap read = before.log.filterMap read := by
  obtain ⟨events, grown, progress⟩ := quiet.log
  have nothing : events.filterMap read = [] :=
    List.filterMap_eq_nil_iff.mpr fun event member => silent event (progress event member)
  rw [grown, List.filterMap_append, nothing, List.append_nil]

theorem quiet_report (session : Session) {event : Event} (progress : event.isProgress = true) :
    session.Quiet (session.report event) :=
  ⟨rfl, rfl, rfl, rfl, [event], rfl, by simpa using progress⟩

theorem quiet_broadcast (session : Session) (transaction : Transaction) {events : List Event}
    (reports : ∀ event ∈ events, event.isTransaction = true) :
    session.Quiet (session.broadcast transaction events) := by
  refine ⟨rfl, rfl, rfl, rfl, events, rfl, ?_⟩
  intro event member
  have transactional := reports event member
  cases event <;> simp_all [Event.isProgress, Event.isTransaction]

end Session

/-- The ways from session to session: the contracts under way, the session at the beginning, the
moments, the failure at the end, if any, and the session at the end. -/
inductive Passage :
    List Contract → Session → List Moment → Option Fault → Session → Prop where
  /-- Nothing but progress. -/
  | quiet {running : List Contract} {before after : Session} (quiet : before.Quiet after) :
      Passage running before [] none after
  /-- A new failure. -/
  | raise {running : List Contract} {session : Session} (failure : Failure) :
      Passage running session [] (some ⟨session.issued, failure⟩) session.draw
  /-- A kept failure. -/
  | again {running : List Contract} {session : Session} {name : String} {fault : Fault}
      (kept : (name, fault) ∈ session.kept) :
      Passage running session [] (some fault) session
  /-- A failure is kept. -/
  | keep {running : List Contract} {before after : Session} {moments : List Moment}
      {fault : Fault} (name : String) (body : Passage running before moments (some fault) after) :
      Passage running before moments none (after.keep name fault)
  /-- A pause. -/
  | pause {running : List Contract} {session : Session} :
      Passage running session [.pause session] none session
  /-- One passage after another. -/
  | andThen {running : List Contract} {before middle after : Session}
      {first second : List Moment} {thrown : Option Fault}
      (head : Passage running before first none middle)
      (tail : Passage running middle second thrown after) :
      Passage running before (first ++ second) thrown after
  /-- An address is entered by hand. -/
  | record {running : List Contract} {session : Session} (contract : Contract)
      (address : Address) :
      Passage running session [.recorded contract address session] none
        (session.enter contract address)
  /-- A call for a known contract. -/
  | skipped (call : Call) {address : Address}
      (known : call.before.book.lookup call.contract = some address) :
      Passage call.running call.before [.entered call, .left call] none
        (call.before.report (.contractSkipped call.contract.name address.text))
  /-- A call whose procedure gives an address. -/
  | deployed (call : Call) {address : Address} {moments : List Moment} {middle : Session}
      (absent : call.before.book.lookup call.contract = none)
      (body : Passage (call.contract :: call.running) call.opened moments none middle)
      (given : call.attempt = .ok address (middle.enter call.contract address)) :
      Passage call.running call.before (.entered call :: (moments ++ [.left call])) none
        ((middle.enter call.contract address).report
          (.contractDeployed call.contract.name address.text))
  /-- A call whose procedure fails, or whose address is refused. -/
  | failed (call : Call) {fault : Fault} {moments : List Moment} {middle : Session}
      (absent : call.before.book.lookup call.contract = none)
      (body : Passage (call.contract :: call.running) call.opened moments (some fault) middle)
      (given : call.attempt = .error fault middle) :
      Passage call.running call.before (.entered call :: (moments ++ [.left call]))
        (some (Deployer.leaving call.contract fault middle).1)
        (Deployer.leaving call.contract fault middle).2

namespace Call

theorem result_of_known {call : Call} {address : Address}
    (known : call.before.book.lookup call.contract = some address) :
    call.result =
      .ok address (call.before.report (.contractSkipped call.contract.name address.text)) :=
  Deployer.deploy_known known call.procedure

theorem result_of_absent {call : Call}
    (absent : call.before.book.lookup call.contract = none) :
    call.result =
      match call.attempt with
      | .ok address session =>
          .ok address (session.report (.contractDeployed call.contract.name address.text))
      | .error fault session =>
          .error (Deployer.leaving call.contract fault session).1
            (Deployer.leaving call.contract fault session).2 :=
  Deployer.deploy_absent absent call.procedure

theorem result_of_ok {call : Call} {address : Address} {session : Session}
    (absent : call.before.book.lookup call.contract = none)
    (given : call.attempt = .ok address session) :
    call.result =
      .ok address (session.report (.contractDeployed call.contract.name address.text)) := by
  rw [result_of_absent absent, given]

theorem result_of_error {call : Call} {fault : Fault} {session : Session}
    (absent : call.before.book.lookup call.contract = none)
    (given : call.attempt = .error fault session) :
    call.result =
      .error (Deployer.leaving call.contract fault session).1
        (Deployer.leaving call.contract fault session).2 := by
  rw [result_of_absent absent, given]

end Call

/-- A procedure runs along a course: from every session its moments lead to where it ends. -/
def Follows {α : Type} (running : List Contract) (procedure : Procedure α) (course : Course) :
    Prop :=
  ∀ session,
    Passage running session (course session) (thrown? (procedure session))
      (final (procedure session))

namespace Follows

variable {α β : Type} {running : List Contract}

theorem pure (value : α) : Follows running (Pure.pure value : Procedure α) .idle :=
  fun session => .quiet (.refl session)

theorem fail (failure : Failure) :
    Follows running (Procedure.fail failure : Procedure α) .idle :=
  fun _ => .raise failure

theorem emit {event : Event} (progress : event.isProgress = true) :
    Follows running (Procedure.emit event) .idle :=
  fun session => .quiet (session.quiet_report progress)

theorem adopt (result : Except Failure α) : Follows running (Procedure.adopt result) .idle := by
  cases result with
  | ok value => exact pure value
  | error failure => exact fail failure

theorem bind {first : Procedure α} {next : α → Procedure β} {course : Course}
    {courses : α → Course} (head : Follows running first course)
    (tail : ∀ value, Follows running (next value) (courses value)) :
    Follows running (first >>= next) (.andThen first course courses) := by
  intro session
  have passage := head session
  simp only [bind_apply, Course.andThen]
  cases result : first session with
  | ok value middle =>
      rw [result] at passage
      exact passage.andThen (tail value middle)
  | error fault middle =>
      rw [result] at passage
      change Passage running session (course session ++ []) (some fault) middle
      rw [List.append_nil]
      exact passage

theorem bind_tail {first : Procedure α} {next : α → Procedure β} {course : Course}
    (head : Follows running first course) (tail : ∀ value, Follows running (next value) .idle) :
    Follows running (first >>= next) course := by
  intro session
  have passage := bind head tail session
  cases result : first session <;> simpa [Course.andThen, Course.idle, result] using passage

theorem createContract (image : CreationImage) (arguments : Option Arguments) :
    Follows running (Broadcast.createContract image arguments) .idle := by
  intro session
  cases encoded : Broadcast.creationData image arguments with
  | error fault =>
      rw [Broadcast.createContract_unencoded encoded]
      exact .raise _
  | ok data =>
      obtain ⟨events, reports, ⟨value, given, -⟩ | ⟨_, _, failed, -⟩⟩ :=
        Broadcast.createContract_cases encoded session
      · rw [given]
        exact .quiet (session.quiet_broadcast _ reports)
      · rw [failed]
        exact (Passage.quiet (session.quiet_broadcast _ reports)).andThen (.raise _)

theorem deploy {contract : Contract} {procedure : Procedure Value} {course : Course}
    (follows : Follows (contract :: running) procedure course) :
    Follows running (Deployer.deploy contract procedure)
      (.call running contract procedure course) := by
  intro session
  let call : Call := ⟨running, contract, procedure, session⟩
  change Passage call.running call.before _ (thrown? call.result) (final call.result)
  simp only [Course.call]
  cases lookup : session.book.lookup contract with
  | some address =>
      rw [Call.result_of_known lookup]
      exact .skipped call lookup
  | none =>
      have body := follows call.opened
      have attempt : call.attempt = _ :=
        Deployer.perform_apply contract procedure call.opened
      cases result : procedure call.opened with
      | error fault middle =>
          rw [result] at body attempt
          rw [Call.result_of_error lookup attempt]
          exact .failed call lookup body attempt
      | ok value middle =>
          rw [result] at body attempt
          simp only [record_apply] at attempt
          cases accepted : Address.ofValue value with
          | ok address =>
              rw [accepted] at attempt
              rw [Call.result_of_ok lookup attempt]
              exact .deployed call lookup body attempt
          | error fault =>
              rw [accepted] at attempt
              rw [Call.result_of_error lookup attempt]
              have refused := body.andThen (.raise (.plain (fault.message contract.name)))
              rw [List.append_nil] at refused
              exact .failed call lookup refused attempt

theorem deployLibrary (contract : Contract) (template : Template) :
    Follows running (LightClient.deployLibrary contract template)
      (LightClient.libraryCourse running contract template) := by
  rw [LightClient.deployLibrary, LightClient.libraryCourse]
  cases template.load.bind Artifact.resolve with
  | ok image => exact deploy (createContract image none)
  | error failure => exact fail failure

theorem linkAndReport (artifact : Artifact) (library : String) (address : Address) :
    Follows running (LightClient.linkAndReport artifact library address) .idle :=
  bind_tail (adopt _) fun _ => bind_tail (emit rfl) fun _ => pure _

theorem deployAndLink (variant : LightClient.Variant) :
    Follows running (LightClient.deployAndLink variant)
      (LightClient.createCourse running variant) := by
  refine bind (deployLibrary _ _) fun _ => bind_tail (deployLibrary _ _) fun _ => ?_
  refine bind_tail (adopt _) fun _ => bind_tail (linkAndReport _ _ _) fun _ => ?_
  exact linkAndReport _ _ _

theorem create (variant : LightClient.Variant) (arguments : Option Arguments) :
    Follows running (LightClient.create variant arguments)
      (LightClient.createCourse running variant) :=
  bind_tail (deployAndLink variant) fun _ => bind_tail (adopt _) fun _ => createContract _ _

theorem keep (name : String) {procedure : Procedure Action.Effect} {course : Course}
    (follows : Follows running procedure course) :
    Follows running
      (tryCatch procedure fun fault => do
        Action.keep name fault
        return .none)
      course := by
  intro session
  have passage := follows session
  rw [tryCatch_apply]
  cases result : procedure session with
  | ok value after =>
      rw [result] at passage
      exact passage
  | error fault after =>
      rw [result] at passage
      exact passage.keep name

theorem rethrow (name : String) :
    Follows running (Action.rethrow name : Procedure α) .idle := by
  intro session
  rw [Action.rethrow, bind_apply, get_apply]
  cases found : session.kept.find? fun entry => entry.1 == name with
  | none =>
      simp only [found]
      exact .raise _
  | some entry =>
      simp only [found]
      exact .again (List.mem_of_find?_eq_some found)

theorem record (contract : Contract) (value : Value) :
    Follows running (Procedure.record contract value) fun session =>
      match Address.ofValue value with
      | .ok address => [.recorded contract address session]
      | .error _ => [] := by
  intro session
  rw [record_apply]
  cases Address.ofValue value with
  | ok address => exact .record contract address
  | error fault => exact .raise _

mutual

/-- Every action runs along its course. -/
theorem perform : ∀ (running : List Contract) (action : Action),
    Follows running action.perform (action.course running)
  | running, .deploy contract body => by
      rw [Action.perform, Action.course]
      exact bind_tail (deploy (performAll (contract :: running) body .missing)) fun _ => pure _
  | running, .broadcast contract image arguments => by
      rw [Action.perform, Action.course]
      exact bind_tail (deploy (createContract image arguments)) fun _ => pure _
  | running, .create image arguments => by
      rw [Action.perform, Action.course]
      exact bind_tail (createContract image arguments) fun _ => pure _
  | running, .production => by
      rw [Action.perform, Action.course]
      exact bind_tail (deploy (create LightClient.production none)) fun _ => pure _
  | running, .mock arguments => by
      rw [Action.perform, Action.course]
      exact bind_tail (deploy (create LightClient.mock _)) fun _ => pure _
  | running, .record contract value => by
      rw [Action.perform, Action.course]
      exact bind_tail (record contract value) fun _ => pure _
  | running, .lookup contract => by
      intro session
      rw [Action.perform, Action.course, bind_apply, get_apply]
      cases lookup : session.book.lookup contract <;> simp only [lookup] <;>
        exact .quiet (.refl session)
  | running, .finish value => by
      rw [Action.perform, Action.course]
      exact pure _
  | running, .fail failure => by
      rw [Action.perform, Action.course]
      exact fail failure
  | running, .attempt name body => by
      rw [Action.perform, Action.course]
      exact keep name (bind_tail (performAll running body .missing) fun _ => pure _)
  | running, .failAgain name => by
      rw [Action.perform, Action.course]
      exact rethrow name

/-- Actions in turn run along their course. -/
theorem performAll : ∀ (running : List Contract) (actions : List Action) (last : Value),
    Follows running (Action.performAll actions last) (Action.courseAll running actions last)
  | running, [], last => by
      intro session
      rw [Action.performAll, Action.courseAll]
      exact .pause
  | running, action :: rest, last => by
      intro session
      rw [Action.performAll, Action.courseAll]
      refine Passage.pause.andThen (bind (perform running action) (fun effect => ?_) session)
      cases effect with
      | none => exact performAll running rest last
      | value value => exact performAll running rest value
      | finish value => exact fun _ => .pause

end

end Follows

/-- Each top-level action is a passage that ends where the next one begins. -/
theorem Session.perform_passage (session : Session) (action : Action) :
    ∃ thrown,
      Passage [] session (Action.courseAll [] [action] .missing session) thrown
        (session.perform [action]).2 := by
  have ends :
      (session.perform [action]).2 = final (Action.performAll [action] .missing session) := by
    rw [Session.perform]
    cases Action.performAll [action] .missing session <;> rfl
  exact ⟨_, ends ▸ Follows.performAll [] [action] .missing session⟩

/-! ## Every call is on the timeline -/

/-- The contract for which an event reports that a call was made. -/
def Event.called? : Event → Option String
  | contractSkipped contract _ => some contract
  | contractStarted contract => some contract
  | _ => none

/-- The contract for which a call is made at a moment. -/
def Moment.called? : Moment → Option String
  | entered call => some call.contract.name
  | _ => none

theorem Event.called?_of_progress (event : Event) (progress : event.isProgress = true) :
    event.called? = none := by
  cases event <;> simp_all [isProgress, isTransaction, called?]

/-- A passage reports a call for each of its entries, in the same order. -/
theorem Passage.calls_reported {running : List Contract} {before after : Session}
    {moments : List Moment} {thrown : Option Fault}
    (passage : Passage running before moments thrown after) :
    after.log.filterMap Event.called? =
      before.log.filterMap Event.called? ++ moments.filterMap Moment.called? := by
  induction passage with
  | quiet quiet =>
      rw [quiet.filterMap_log Event.called?_of_progress, List.filterMap_nil, List.append_nil]
  | raise | again | pause | record => simp [Moment.called?]
  | keep name body ih => simpa using ih
  | andThen head tail first second => simp [second, first]
  | skipped call known => simp [Event.called?, Moment.called?]
  | deployed call absent body given ih =>
      simp [ih, Call.opened, Event.called?, Moment.called?]
      rfl
  | failed call absent body given ih =>
      have silent := @Deployer.filterMap_leaving _ Event.called? fun _ _ => rfl
      simp [silent, ih, Call.opened, Event.called?, Moment.called?]

/-- The timeline of top-level actions has an entry for each reported call, in the same order. -/
theorem Session.calls_reported (session : Session) (actions : List Action) :
    (session.afterEach actions).log.filterMap Event.called? =
      session.log.filterMap Event.called? ++
        (session.timeline actions).filterMap Moment.called? := by
  induction actions generalizing session with
  | nil => simp [afterEach, timeline, Moment.called?]
  | cons action rest ih =>
      obtain ⟨thrown, passage⟩ := session.perform_passage action
      rw [afterEach, timeline, ih, passage.calls_reported]
      simp [List.append_assoc]

end Rollout
