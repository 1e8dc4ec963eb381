import Rollout.Proofs.Deployer
import Rollout.Script

/-!
# The timeline of a script

Every call that deploys a contract, at whatever depth of a script, together with the sessions at
which it is entered and left.  A timeline lists these moments in order, with the pauses between
actions, so that a statement about a script can speak of everything that goes on while it runs.
-/

namespace Rollout

/-- A call that deploys a contract. -/
structure Call where
  /-- The contracts whose deployments are under way, innermost first. -/
  running : List Contract
  /-- The contract that is to be deployed. -/
  contract : Contract
  /-- The procedure that deploys it. -/
  procedure : Procedure Value
  /-- The session in which the call is made. -/
  before : Session

namespace Call

/-- What becomes of the call. -/
def result (call : Call) : EStateM.Result Fault Session Address :=
  Deployer.deploy call.contract call.procedure call.before

/-- The session in which the procedure begins, if it is run. -/
def opened (call : Call) : Session := call.before.report (.contractStarted call.contract.name)

/-- What the procedure and the entry of its address come to, if it is run. -/
def attempt (call : Call) : EStateM.Result Fault Session Address :=
  Deployer.perform call.contract call.procedure call.opened

end Call

/-- A moment in the life of a deployer. -/
inductive Moment where
  /-- Nothing goes on between two actions. -/
  | pause (session : Session)
  /-- A call is made. -/
  | entered (call : Call)
  /-- A call is over. -/
  | left (call : Call)
  /-- An address is about to be entered by hand. -/
  | recorded (contract : Contract) (address : Address) (session : Session)

/-- The session at a moment. -/
def Moment.session : Moment → Session
  | pause session => session
  | entered call => call.before
  | left call => Procedure.final call.result
  | recorded _ _ session => session

/-- The moments of a procedure, given the session in which it begins. -/
abbrev Course := Session → List Moment

namespace Course

/-- No moments. -/
def idle : Course := fun _ => []

/-- The moments of a procedure and of what follows it. -/
def andThen {α : Type} (first : Procedure α) (course : Course) (next : α → Course) : Course :=
  fun session =>
    course session ++
      match first session with
      | .ok value session => next value session
      | .error _ _ => []

/-- The moments of a call: its entry, those of its procedure if that is run, and its end. -/
def call (running : List Contract) (contract : Contract) (procedure : Procedure Value)
    (course : Course) : Course :=
  fun session =>
    let call : Call := ⟨running, contract, procedure, session⟩
    .entered call ::
      ((if session.book.lookup contract = none then course call.opened else []) ++ [.left call])

end Course

namespace LightClient

/-- The moments of the deployment of a library. -/
def libraryCourse (running : List Contract) (contract : Contract) (template : Template) :
    Course :=
  match template.load.bind Artifact.resolve with
  | .ok image => .call running contract (Broadcast.createContract image none) .idle
  | .error _ => .idle

/-- The moments of the creation of a light client. -/
def createCourse (running : List Contract) (variant : Variant) : Course :=
  .andThen (deployLibrary .plonkVerifier .plonkVerifier)
    (libraryCourse running .plonkVerifier .plonkVerifier)
    fun _ => libraryCourse running .stateUpdateVK variant.keyTemplate

/-- The moments of the deployment of a light client. -/
def course (running : List Contract) (variant : Variant) (arguments : Option Arguments) :
    Course :=
  .call running .lightClient (create variant arguments)
    (createCourse (.lightClient :: running) variant)

end LightClient

namespace Action

mutual

/-- The moments of an action. -/
def course (running : List Contract) : Action → Course
  | deploy contract body =>
      .call running contract (performAll body .missing)
        (courseAll (contract :: running) body .missing)
  | broadcast contract image arguments =>
      .call running contract (Broadcast.createContract image arguments) .idle
  | production => LightClient.course running LightClient.production none
  | mock arguments =>
      LightClient.course running LightClient.mock (some (mockConstructorArguments arguments))
  | record contract value => fun session =>
      match Address.ofValue value with
      | .ok address => [.recorded contract address session]
      | .error _ => []
  | attempt _ body => courseAll running body .missing
  | create .. | lookup _ | finish _ | fail _ | failAgain _ => .idle

/-- The moments of actions in turn, `last` being the value so far. -/
def courseAll (running : List Contract) : List Action → Value → Course
  | [], _ => fun session => [.pause session]
  | action :: rest, last => fun session =>
      .pause session ::
        Course.andThen (perform action) (course running action)
          (fun
            | .none => courseAll running rest last
            | .value value => courseAll running rest value
            | .finish _ => fun session => [.pause session])
          session

end

end Action

namespace Session

/-- The session after top-level actions, each of which is performed whatever became of the ones
before. -/
def afterEach (session : Session) : List Action → Session
  | [] => session
  | action :: rest => (session.perform [action]).2.afterEach rest

/-- The moments of top-level actions. -/
def timeline (session : Session) : List Action → List Moment
  | [] => [.pause session]
  | action :: rest =>
      Action.courseAll [] [action] .missing session ++
        (session.perform [action]).2.timeline rest

end Session

end Rollout
