import Rollout.Proofs.Run.Events

/-!
# Rejected runs

A run is rejected when the addresses given in advance are refused, when its deployment fails, or
when the sink refuses a line.  Only a failure of the deployment is announced.  It is announced
once, with its own message, but a complaint of the sink takes its place as the outcome of the run;
neither that complaint nor the refusal of an address is announced at all.
-/

namespace Rollout

/-- What an event says about a failed run. -/
def Event.failureMessage? : Event → Option String
  | deploymentFailed error _ _ => some error
  | _ => none

theorem Event.failureMessage?_of_isStep (event : Event) (step : event.isStep = true) :
    event.failureMessage? = none := by
  cases event <;> first | rfl | contradiction

namespace Run

/-- The messages of the failures that a run announces, in order. -/
def Report.announced (report : Report) : List String :=
  report.events.filterMap Event.failureMessage?

/-- The message of an outcome that is a failure. -/
def failureMessages : Except Failure Address → List String
  | .ok _ => []
  | .error failure => [failure.message]

/-- Why a run is rejected, and which failures it has announced by then. -/
inductive Rejection (options : Options) (signer : Signer) (sink : Sink) (report : Report) :
    Failure → Prop
  /-- An address given in advance is refused, before anything is reported. -/
  | seeds {fault : SeedFault} (refused : options.seeds = .error fault)
      (silent : report.events = []) :
      Rejection options signer sink report (.plain fault.message)
  /-- A contract cannot be deployed; this failure is announced, once, and all lines are written. -/
  | deployment {contract : Contract} {cause : Failure}
      (announced : report.announced = [(Failure.deployment contract cause).message])
      (written : report.written = report.book.lines) :
      Rejection options signer sink report (.deployment contract cause)
  /-- The sink refuses a line; announced is what the run would have been rejected with otherwise. -/
  | sink {complaint : String}
      (refused : (sink.take report.book.lines).2 = some complaint)
      (announced :
        report.announced = failureMessages (runDeployment options signer .unlimited).result) :
      Rejection options signer sink report (.plain complaint)

section

variable {options : Options} {book : AddressBook} (seeded : options.seeds = .ok book)
  (signer : Signer) (sink : Sink)

include seeded in
/-- A run announces the failure of its deployment, and nothing else. -/
theorem announced_eq :
    (runDeployment options signer sink).announced =
      failureMessages (outcome (deployment options) (options.opening signer book)).1 := by
  obtain ⟨steps, only, events⟩ := report_events seeded signer sink
  have silent : steps.filterMap Event.failureMessage? = [] :=
    List.filterMap_eq_nil_iff.mpr fun event member =>
      event.failureMessage?_of_isStep (only event member)
  rw [Report.announced, events, List.filterMap_append, silent, List.nil_append]
  cases (outcome (deployment options) (options.opening signer book)).1 <;> split <;> rfl

include seeded in
theorem result_of_refuses {complaint : String}
    (refuses : (sink.take (runDeployment options signer sink).book.lines).2 = some complaint) :
    (runDeployment options signer sink).result = .error (.plain complaint) := by
  rw [runDeployment_eq seeded, writeOut_book] at refuses
  rw [runDeployment_eq seeded, writeOut]
  simp only [refuses]

theorem result_of_seeds {fault : SeedFault} (refused : options.seeds = .error fault) :
    (runDeployment options signer sink).result = .error (.plain fault.message) ∧
      (runDeployment options signer sink).events = [] := by
  simp only [runDeployment, refused, and_self]

/-- A deployment fails with the failure of a contract. -/
theorem deployment_failure {session : Session} {failure : Failure}
    (failed : (outcome (deployment options) session).1 = .error failure) :
    ∃ contract cause, failure = .deployment contract cause := by
  have carried := deployment_carried options session
  rw [outcome] at failed
  cases concluded : deployment options session with
  | ok address after =>
      rw [concluded] at failed
      contradiction
  | error fault after =>
      rw [concluded] at failed carried
      obtain ⟨contract, cause, _, same⟩ := carried.failure_of_error
      exact ⟨contract, cause, (Except.error.inj failed).symm.trans same⟩

end

/-- A run that is given valid addresses and whose lines are all written announces the failure with
which it is rejected, once.  Every rejection of any run is one of the three kinds. -/
theorem announces_rejection (options : Options) (signer : Signer) (sink : Sink)
    (failure : Failure) (rejected : (runDeployment options signer sink).result = .error failure) :
    (options.SeedsValid → sink.Takes (runDeployment options signer sink).book.lines →
        (runDeployment options signer sink).announced = [failure.message]) ∧
      Rejection options signer sink (runDeployment options signer sink) failure := by
  cases seeded : options.seeds with
  | error fault =>
      obtain ⟨result, silent⟩ := result_of_seeds signer sink seeded
      obtain rfl := Except.error.inj (result.symm.trans rejected)
      refine ⟨fun valid _ => ?_, .seeds seeded silent⟩
      rw [Options.seeds_eq valid] at seeded
      contradiction
  | ok book =>
      have announced := announced_eq seeded signer sink
      obtain takes | ⟨n, complaint, _, _, _, refuses⟩ :=
        sink.takes_or_refuses (runDeployment options signer sink).book.lines
      · obtain ⟨result, written⟩ := report_of_takes seeded signer sink takes
        rw [rejected] at result
        obtain ⟨contract, cause, rfl⟩ := deployment_failure result.symm
        rw [← result] at announced
        exact ⟨fun _ _ => announced, .deployment announced written⟩
      · have result := result_of_refuses seeded signer sink (congrArg Prod.snd refuses)
        obtain rfl := Except.error.inj (result.symm.trans rejected)
        have unlimited := (report_of_takes seeded signer .unlimited rfl).1
        rw [← unlimited] at announced
        refine ⟨fun _ takes => ?_, .sink (congrArg Prod.snd refuses) announced⟩
        exact absurd takes (Sink.not_takes_of_refuses refuses)

theorem result_busy :
    (runDeployment seededRun busySigner .unlimited).result =
      .error (.deployment .stateUpdateVK (.plain "busy")) := (rfl)

/-- A contract that the signer refuses is announced as what the run is rejected with. -/
theorem announces_rejection_busy :
    seededRun.SeedsValid ∧
      Sink.unlimited.Takes (runDeployment seededRun busySigner .unlimited).book.lines ∧
      (runDeployment seededRun busySigner .unlimited).result =
        .error (.deployment .stateUpdateVK (.plain "busy")) ∧
      (runDeployment seededRun busySigner .unlimited).announced =
        [(Failure.deployment .stateUpdateVK (.plain "busy")).message] ∧
      Rejection seededRun busySigner .unlimited (runDeployment seededRun busySigner .unlimited)
        (.deployment .stateUpdateVK (.plain "busy")) := by
  obtain ⟨announced, rejection⟩ :=
    announces_rejection seededRun busySigner .unlimited _ result_busy
  exact ⟨seededRun_valid, rfl, result_busy, announced seededRun_valid rfl, rejection⟩

/-- When the sink refuses the first line after a failed deployment, the run is rejected with the
complaint of the sink, and announced is the failure of the deployment. -/
theorem complaint_replaces_announced_failure :
    (runDeployment seededRun busySigner ⟨some (1, "sink failed")⟩).result =
        .error (.plain "sink failed") ∧
      (runDeployment seededRun busySigner ⟨some (1, "sink failed")⟩).announced =
        ["Failed to deploy StateUpdateVK: busy"] ∧
      (runDeployment seededRun busySigner ⟨some (1, "sink failed")⟩).announced ≠
        [(Failure.plain "sink failed").message] := by
  have seeded := Options.seeds_eq seededRun_valid
  have pending := (report_of_takes seeded busySigner .unlimited rfl).1
  have announced := announced_eq seeded busySigner ⟨some (1, "sink failed")⟩
  rw [← pending, result_busy] at announced
  -- The seeds alone make a first line, whatever the run adds to them.
  have lines : 1 ≤ (runDeployment seededRun busySigner
      ⟨some (1, "sink failed")⟩).book.lines.length := by
    have seeds : seededRun.seedBook.entries.length = 2 := by decide +kernel
    rw [AddressBook.lines, List.length_map, book_entries seededRun_valid, List.length_append,
      seeds]
    omega
  refine ⟨result_of_refuses seeded busySigner _ ?_, announced, ?_⟩
  · simp only [Sink.take, Nat.le_refl, lines, and_self, if_true]
  · rw [announced]
    decide

end Run

end Rollout
