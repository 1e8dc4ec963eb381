import Rollout.Proofs.Run.Order
import Rollout.Proofs.Script.Passage

/-!
# What a run reports

A run reports the steps of its deployment, then the outcome of the deployment, and last the number
of addresses that it has written out.  It writes the lines of its book up to the one that the sink
refuses; only when there is no such line does it report that the addresses are written.
-/

namespace Rollout

/-- Whether an event reports a step of a deployment: what becomes of a contract, or progress. -/
def Event.isStep : Event → Bool
  | contractSkipped .. | contractStarted .. | contractDeployed .. | contractFailed .. => true
  | event => event.isProgress

theorem Event.isStep_of_isProgress {event : Event} (progress : event.isProgress = true) :
    event.isStep = true := by
  cases event <;> first | rfl | exact progress

namespace Session

/-- From one session to another, only steps are reported. -/
def Steps (before after : Session) : Prop :=
  ∃ events, after.log = before.log ++ events ∧ ∀ event ∈ events, event.isStep = true

variable {before middle after : Session}

theorem Steps.of_log (log : after.log = before.log) : before.Steps after :=
  ⟨[], by rw [log, List.append_nil], by simp⟩

theorem Steps.of_event {event : Event} (step : event.isStep = true)
    (log : after.log = before.log ++ [event]) : before.Steps after :=
  ⟨[event], log, by simpa using step⟩

theorem Steps.trans (first : before.Steps middle) (second : middle.Steps after) :
    before.Steps after := by
  obtain ⟨events, grown, steps⟩ := first
  obtain ⟨others, more, others_steps⟩ := second
  refine ⟨events ++ others, by rw [more, grown, List.append_assoc], ?_⟩
  intro event member
  exact (List.mem_append.mp member).elim (steps event) (others_steps event)

theorem Steps.of_quiet (quiet : before.Quiet after) : before.Steps after := by
  obtain ⟨events, grown, progress⟩ := quiet.log
  exact ⟨events, grown, fun event member => Event.isStep_of_isProgress (progress event member)⟩

theorem steps_leaving (contract : Contract) (fault : Fault) (session : Session) :
    session.Steps (Deployer.leaving contract fault session).2 := by
  obtain ⟨_, _, ends⟩ | ⟨_, _, ends⟩ | ⟨_, ends⟩ | ⟨_, _, ends⟩ :=
    Deployer.leaving_cases contract fault session
  · rw [ends]
    exact .of_log rfl
  · rw [ends]
    exact .of_event rfl rfl
  · rw [ends]
    exact .of_event rfl rfl
  · rw [ends]
    exact .of_log rfl

end Session

/-- A passage reports nothing but steps. -/
theorem Passage.steps {running : List Contract} {before after : Session} {moments : List Moment}
    {thrown : Option Fault} (passage : Passage running before moments thrown after) :
    before.Steps after := by
  induction passage with
  | quiet quiet => exact .of_quiet quiet
  | raise | again | pause | record => exact .of_log rfl
  | keep name body ih => exact ih.trans (.of_log rfl)
  | andThen head tail first second => exact first.trans second
  | skipped call known => exact .of_event rfl rfl
  | deployed call absent body given ih =>
      have opened : call.before.Steps call.opened := .of_event rfl rfl
      exact (opened.trans ih).trans (.of_event rfl rfl)
  | failed call absent body given ih =>
      have opened : call.before.Steps call.opened := .of_event rfl rfl
      exact (opened.trans ih).trans (Session.steps_leaving _ _ _)

namespace Sink

/-- A sink takes all lines, or those before the one that it refuses. -/
theorem takes_or_refuses (sink : Sink) (lines : List String) :
    sink.Takes lines ∨
      ∃ n complaint, sink.refusal = some (n, complaint) ∧ 1 ≤ n ∧ n ≤ lines.length ∧
        sink.take lines = (lines.take (n - 1), some complaint) := by
  cases refusal : sink.refusal with
  | none => exact .inl (by simp [Takes, take, refusal])
  | some entry =>
      obtain ⟨n, complaint⟩ := entry
      by_cases inside : 1 ≤ n ∧ n ≤ lines.length
      · exact .inr ⟨n, complaint, rfl, inside.1, inside.2, by simp [take, refusal, inside]⟩
      · exact .inl (by simp [Takes, take, refusal, inside])

theorem not_takes_of_refuses {sink : Sink} {lines written : List String} {complaint : String}
    (refuses : sink.take lines = (written, some complaint)) : ¬ sink.Takes lines := by
  intro takes
  rw [Takes, refuses] at takes
  simp at takes

theorem takes_iff_length {sink : Sink} {lines : List String} :
    sink.Takes lines ↔ (sink.take lines).1.length = lines.length := by
  obtain takes | ⟨n, complaint, _, positive, inside, refuses⟩ := sink.takes_or_refuses lines
  · exact iff_of_true takes (by rw [takes])
  · refine iff_of_false (not_takes_of_refuses refuses) ?_
    rw [refuses, List.length_take]
    omega

theorem take_of_unrefused {sink : Sink} (unrefused : sink.refusal = none) (lines : List String) :
    (sink.take lines).1 = lines := by
  simp [take, unrefused]

theorem take_of_refusal {sink : Sink} {n : Nat} {complaint : String}
    (refusal : sink.refusal = some (n, complaint)) (positive : 1 ≤ n) (lines : List String) :
    (sink.take lines).1 = lines.take (min (n - 1) lines.length) := by
  rw [← List.take_eq_take_min]
  by_cases inside : n ≤ lines.length
  · simp [take, refusal, positive, inside]
  · have beyond : lines.length ≤ n - 1 := by omega
    simp [take, refusal, inside, List.take_of_length_le beyond]

end Sink

namespace Run

open LightClient Procedure

theorem deployment_steps (options : Options) (session : Session) :
    session.Steps (final (deployment options session)) := by
  have follows : Follows [] (deployment options)
      (.call [] .lightClient (LightClient.create options.variant options.arguments)
        (LightClient.createCourse [.lightClient] options.variant)) := by
    rw [deployment_eq]
    exact .deploy (.create options.variant options.arguments)
  exact (follows session).steps

section WriteOut

variable (destination : String) (sink : Sink) (result : Except Failure Address)
  (session : Session)

theorem writeOut_written :
    (writeOut destination sink result session).written = (sink.take session.book.lines).1 := by
  simp only [writeOut]
  split <;> rfl

/-- The number of written addresses is reported when all of them are written. -/
theorem writeOut_events :
    (writeOut destination sink result session).events =
      session.log ++
        if sink.Takes session.book.lines then
          [.addressesWritten destination (.int session.book.size)]
        else [] := by
  obtain takes | ⟨n, complaint, _, _, _, refuses⟩ := sink.takes_or_refuses session.book.lines
  · rw [if_pos takes]
    rw [Sink.Takes] at takes
    simp only [writeOut, takes]
  · rw [if_neg (Sink.not_takes_of_refuses refuses), List.append_nil]
    simp only [writeOut, refuses]

end WriteOut

section Report

variable {options : Options} {book : AddressBook} (seeded : options.seeds = .ok book)
  (signer : Signer) (sink : Sink)

include seeded in
theorem report_written :
    (runDeployment options signer sink).written =
      (sink.take (runDeployment options signer sink).book.lines).1 := by
  rw [runDeployment_eq seeded, writeOut_written, writeOut_book]

include seeded in
/-- A run reports steps, then the outcome of its deployment, and then what it has written. -/
theorem report_events :
    ∃ steps, (∀ event ∈ steps, event.isStep = true) ∧
      (runDeployment options signer sink).events =
        steps ++ closingEvent (outcome (deployment options) (options.opening signer book)).1 ::
          if sink.Takes (runDeployment options signer sink).book.lines then
            [.addressesWritten options.destination
              (.int (runDeployment options signer sink).book.size)]
          else [] := by
  obtain ⟨steps, log, only⟩ := deployment_steps options (options.opening signer book)
  rw [← outcome_snd, Options.opening, Session.start, List.nil_append] at log
  refine ⟨steps, only, ?_⟩
  rw [runDeployment_eq seeded, writeOut_events, writeOut_book, Session.report_log,
    List.append_assoc]
  exact congrArg (· ++ _) log

include seeded in
/-- A run whose lines are all taken reports the failure with which it is rejected. -/
theorem failureEvent_mem_events
    (takes : sink.Takes (runDeployment options signer sink).book.lines) {failure : Failure}
    (rejected : (runDeployment options signer sink).result = .error failure) :
    failureEvent failure ∈ (runDeployment options signer sink).events := by
  obtain ⟨steps, _, events⟩ := report_events seeded signer sink
  rw [(report_of_takes seeded signer sink takes).1] at rejected
  rw [events, rejected]
  exact List.mem_append_right _ List.mem_cons_self

end Report

/-! ## What is written and reported -/

/-- An event tells the outcome of a deployment: the address of the light client if everything
missing was created, and otherwise the failure of the first contract that was not. -/
inductive Closes (options : Options) (signer : Signer) (report : Report) : Event → Prop
  /-- Everything is created, and the address is the one in the book. -/
  | completed {address : Address}
      (created : (options.created signer).map Prod.fst = options.missing)
      (known : report.book.lookup .lightClient = some address) :
      Closes options signer report (.deploymentCompleted address.text)
  /-- A contract is not created, and the event names it. -/
  | failed {contract : Contract} {cause : Failure}
      (first : options.missing[(options.created signer).length]? = some contract) :
      Closes options signer report
        (.deploymentFailed (Failure.deployment contract cause).message
          (Failure.deployment contract cause).headline? (some contract.name))

theorem closes_closingEvent {options : Options} (valid : options.SeedsValid) (signer : Signer)
    (sink : Sink) :
    Closes options signer (runDeployment options signer sink)
      (closingEvent
        (outcome (deployment options) (options.opening signer options.seedBook)).1) := by
  have carried := deployment_carried options (options.opening signer options.seedBook)
  have book := report_book (Options.seeds_eq valid) signer sink
  rw [outcome]
  cases concluded : deployment options (options.opening signer options.seedBook) with
  | ok address after =>
      rw [concluded] at carried book
      refine .completed ?_ ?_
      · exact (map_created_eq_iff options signer).mpr carried.progress_of_ok.complete
      · rw [book]
        rw [deployment_eq] at concluded
        exact Deployer.lookup_of_deploy concluded
  | error fault after =>
      rw [concluded] at carried
      obtain ⟨contract, cause, first, failure⟩ := carried.failure_of_error
      simp only [failure]
      exact .failed first

/-- What a run writes and reports, with a sink that may refuse a line. -/
structure Exports (options : Options) (signer : Signer) (sink : Sink) (report : Report) :
    Prop where
  /-- Before a line that is refused, all lines of the book are written. -/
  refused : ∀ n complaint, sink.refusal = some (n, complaint) → 1 ≤ n →
    report.written = report.book.lines.take (min (n - 1) report.book.size)
  /-- When no line is refused, all lines of the book are written. -/
  unrefused : sink.refusal = none → report.written = report.book.lines
  /-- Behind the steps of the deployment stands its outcome, and behind this the number of written
  addresses, if all of them are written. -/
  events : ∃ steps closing, (∀ event ∈ steps, event.isStep = true) ∧
    Closes options signer report closing ∧
    report.events =
      steps ++ closing ::
        if report.written.length = report.book.size then
          [.addressesWritten options.destination (.int report.book.size)]
        else []

/-- A run writes out what it knows, whether its deployment succeeds or not, and reports it. -/
theorem exports_what_it_knows (options : Options) (signer : Signer) (sink : Sink)
    (valid : options.SeedsValid) :
    Exports options signer sink (runDeployment options signer sink) := by
  have seeded := Options.seeds_eq valid
  have written := report_written seeded signer sink
  have size : (runDeployment options signer sink).book.lines.length =
      (runDeployment options signer sink).book.size := List.length_map _
  obtain ⟨steps, only, events⟩ := report_events seeded signer sink
  refine ⟨?_, ?_, steps, _, only, closes_closingEvent valid signer sink, ?_⟩
  · intro n complaint refusal positive
    rw [written, Sink.take_of_refusal refusal positive, size]
  · intro unrefused
    rw [written, Sink.take_of_unrefused unrefused]
  · rw [events, written, ← size]
    simp only [Sink.takes_iff_length]

/-- A verifier that is deployed already, and the consensus contract. -/
def seededRun : Options :=
  { deployed := .record
      [("PlonkVerifier", .text "0xABCDEFabcdef0123456789ABCDEFabcdef012345"),
        ("HotShot", .text "0x1111111111111111111111111111111111111111")]
    mock := false
    mockArguments := none
    destination := "stdout"
    gasLimit := none }

/-- A signer that refuses the first transaction. -/
def busySigner : Signer := { usualSigner with outcomes := [.refused "busy"] }

theorem seededRun_valid : seededRun.SeedsValid := by decide +kernel

theorem exports_what_it_knows_refused :
    seededRun.SeedsValid ∧
      Exports seededRun busySigner ⟨some (2, "no space")⟩
        (runDeployment seededRun busySigner ⟨some (2, "no space")⟩) ∧
      (runDeployment seededRun busySigner ⟨some (2, "no space")⟩).written =
        ["ESPRESSO_SEQUENCER_HOTSHOT_ADDRESS=0x1111111111111111111111111111111111111111\n"] := by
  exact ⟨seededRun_valid,
    exports_what_it_knows seededRun busySigner ⟨some (2, "no space")⟩ seededRun_valid,
    by decide +kernel⟩

end Run

end Rollout
