import Rollout.Proofs.Command.Course

/-!
# What the command `deploy` delivers

Once the command has started a run, the lines of the book are the content of the output file, or
what stands on the output stream, whether the run succeeds or not.  The exit code tells whether it
does, and every failure is described on the error stream.
-/

namespace Rollout.Command

/-- The description of an event stands on the error stream. -/
def Report.Shows (report : Report) (printer : Printer) (event : Event) : Prop :=
  Console.printed .error (printer.describe event) ≠ "" ∧
    ∃ before after,
      report.on .error = before ++ Console.printed .error (printer.describe event) ++ after

theorem Report.shows_of_writings {report : Report} {printer : Printer} {event : Event}
    (failure : event.level = .error) (front back : List Writing)
    (writings : report.writings = front ++ writeLines (printer.describe event) ++ back) :
    report.Shows printer event := by
  refine ⟨Console.printed_error_ne_empty (printer.stream_of_failure failure)
    (printer.describe_ne_nil failure), written .error front, written .error back, ?_⟩
  rw [on_eq_written, writings, written_append, written_append, written_writeLines]

namespace Deploy

/-- Every text can be written to the output file once it is open. -/
def Writable (machine : Machine) (options : DeployOptions) : Prop :=
  ∀ name files, options.outputFile = some name →
    machine.files.openForWriting (machine.path name) = .ok files →
      ∀ content, (files.write? (machine.path name) content).isSome = true

/-- The event that reports why an invocation fails: it starts no run, or its run is rejected. -/
inductive Blames (machine : Machine) (options : DeployOptions) : Event → Prop
  /-- No run is started. -/
  | command {message : String} (unstarted : started machine options = .error message) :
      Blames machine options (.commandFailed (.text message))
  /-- The run is rejected. -/
  | run {deployment : Run.Report} {failure : Failure}
      (ran : started machine options = .ok deployment)
      (rejected : deployment.result = .error failure) :
      Blames machine options (Run.failureEvent failure)

/-- What an invocation of the command delivers. -/
structure Delivers (machine : Machine) (options : DeployOptions) (report : Report) : Prop where
  /-- The exported lines are the content of the output file, unless it is a device that keeps
  nothing. -/
  file : ∀ deployment name, started machine options = .ok deployment →
    options.outputFile = some name →
      report.files.find? (machine.path name) = some (.file deployment.book.toDotenv) ∨
        machine.files.find? (machine.path name) = some .discard
  /-- Without an output file the exported lines are what stands on the output stream. -/
  output : ∀ deployment, started machine options = .ok deployment → options.outputFile = none →
    report.on .output = deployment.book.toDotenv
  /-- The invocation succeeds if and only if it has started a run that gives an address. -/
  exit_zero : report.exitCode = 0 ↔
    ∃ deployment address, started machine options = .ok deployment ∧
      deployment.result = .ok address
  /-- Otherwise the failure is described on the error stream. -/
  exit_one : report.exitCode ≠ 0 → report.exitCode = 1 ∧
    ∃ event, Blames machine options event ∧ report.Shows (printer machine options) event

theorem runOptions_valid (options : DeployOptions) (planned : Plan) :
    (runOptions options planned).SeedsValid :=
  fun contract _ => AddressBook.toDeployed_valid ⟨planned.predeployed⟩ contract

theorem verbosity_nonneg (machine : Machine) (options : DeployOptions) :
    0 ≤ (printer machine options).verbosity := Console.verbosityOf_nonneg _

/-- Without an output file all events are described on the error stream. -/
theorem toError_of_unnamed (machine : Machine) {options : DeployOptions}
    (unnamed : options.outputFile = none) : (printer machine options).toError = true := by
  simp [printer, unnamed]

theorem complaint_eq (machine : Machine) (options : DeployOptions) (message : String) :
    complaint (printer machine options) message =
      writeLines ((printer machine options).describe (.commandFailed (.text message))) := by
  rw [complaint, Printer.lines_of_failure _ rfl (verbosity_nonneg machine options)]

theorem deliver_cases {machine : Machine} {options : DeployOptions} {files : FileTree}
    (opened : openOutput machine options = .ok files) (writable : Writable machine options)
    (lines : List String) :
    (options.outputFile = none ∧
        deliver machine options files lines =
          (false, lines.map fun line => (Console.Stream.output, line), files)) ∨
      ∃ name later, options.outputFile = some name ∧
        deliver machine options files lines = (false, [], later) ∧
        (later.find? (machine.path name) = some (.file (String.join lines)) ∨
          machine.files.find? (machine.path name) = some .discard) := by
  obtain ⟨unnamed, rfl⟩ | ⟨name, named, opened⟩ := openOutput_cases opened
  · exact .inl ⟨unnamed, by simp only [deliver, unnamed]⟩
  · have writes := writable name files named opened
    have opens := FileTree.opens_of_openForWriting opened
    obtain ⟨later, success⟩ := Option.isSome_iff_exists.mp (writes (String.join lines))
    refine .inr ⟨name, later, named, by simp only [deliver, named, success], ?_⟩
    obtain content | discard | full := opens.find?_of_write success
    · exact .inl content
    · exact .inr discard
    · exact absurd full (opens.writable_iff.mp writes)

theorem deployThrough_eq {options : DeployOptions} {planned : Plan} {signer : Signer}
    {files later : FileTree} {writings : List Writing} (machine : Machine)
    (delivered : deliver machine options files
      (runDeployment (runOptions options planned) signer .unlimited).written =
        (false, writings, later)) :
    deployThrough machine options planned signer files =
      { failed := !(runDeployment (runOptions options planned) signer .unlimited).result.isOk
        writings :=
          writeLines ((printer machine options).linesOf
            (runDeployment (runOptions options planned) signer .unlimited).events) ++ writings
        files := later
        requests := []
        sent := (runDeployment (runOptions options planned) signer .unlimited).sent } := by
  simp [deployThrough, delivered]

variable {machine : Machine} {options : DeployOptions} {report : Report}

/-- An invocation that starts no run delivers nothing but a description of its failure. -/
theorem Delivers.of_unstarted {message : String} {front : List Writing}
    (unstarted : started machine options = .error message) (failed : report.failed = true)
    (writings : report.writings = front ++ complaint (printer machine options) message) :
    Delivers machine options report := by
  have code : report.exitCode = 1 := by rw [Report.exitCode, failed, if_pos rfl]
  have idle : ∀ deployment, started machine options ≠ .ok deployment := by simp [unstarted]
  refine ⟨?_, ?_, ?_, fun _ => ⟨code, _, .command unstarted, ?_⟩⟩
  · exact fun deployment _ ran => absurd ran (idle deployment)
  · exact fun deployment ran => absurd ran (idle deployment)
  · refine iff_of_false (by rw [code]; decide) ?_
    rintro ⟨deployment, address, ran, _⟩
    exact idle deployment ran
  · rw [complaint_eq] at writings
    exact Report.shows_of_writings rfl front [] (by rw [writings, List.append_nil])

/-- An invocation that starts a run delivers its lines and describes its failure, if it has one. -/
theorem Delivers.of_started {deployment : Run.Report} {front delivered : List Writing}
    (ran : started machine options = .ok deployment)
    (failed : report.failed = !deployment.result.isOk)
    (writings : report.writings =
      front ++ (writeLines ((printer machine options).linesOf deployment.events) ++ delivered))
    (announced : ∀ failure, deployment.result = .error failure →
      Run.failureEvent failure ∈ deployment.events)
    (file : ∀ name, options.outputFile = some name →
      report.files.find? (machine.path name) = some (.file deployment.book.toDotenv) ∨
        machine.files.find? (machine.path name) = some .discard)
    (output : options.outputFile = none →
      written .output front = "" ∧
        delivered = deployment.book.lines.map fun line => (Console.Stream.output, line)) :
    Delivers machine options report where
  file := by
    intro other name same named
    rw [ran, Except.ok.injEq] at same
    exact same ▸ file name named
  output := by
    intro other same unnamed
    rw [ran, Except.ok.injEq] at same
    obtain ⟨silent, delivered⟩ := output unnamed
    have routed := toError_of_unnamed machine unnamed
    have shown : Console.printed .output ((printer machine options).linesOf deployment.events) =
        "" :=
      Console.printed_output_eq_empty ((printer machine options).stream_of_linesOf routed _)
    rw [Report.on_eq_written, writings, written_append, written_append, written_writeLines, silent,
      shown, delivered, written_output, ← same]
    simp [AddressBook.toDotenv]
  exit_zero := by
    rw [Report.exitCode, failed]
    cases result : deployment.result with
    | ok address => exact iff_of_true rfl ⟨deployment, address, ran, result⟩
    | error failure =>
        refine iff_of_false Nat.one_ne_zero ?_
        rintro ⟨other, address, same, given⟩
        rw [ran, Except.ok.injEq] at same
        rw [← same, result] at given
        contradiction
  exit_one := by
    rw [Report.exitCode, failed]
    cases result : deployment.result with
    | ok address => exact fun failing => absurd rfl failing
    | error failure =>
        refine fun _ => ⟨rfl, _, .run ran result, ?_⟩
        -- The sink takes every line, so the failure of the run is among its events.
        obtain ⟨before, after, shown⟩ :=
          (printer machine options).linesOf_of_mem (announced failure result)
        rw [Printer.lines_of_failure _ rfl (verbosity_nonneg machine options)] at shown
        refine Report.shows_of_writings rfl (front ++ writeLines before)
          (writeLines after ++ delivered) ?_
        rw [writings, shown]
        simp [writeLines]

/-- When the files can be written, an invocation of the command delivers what its run exports. -/
theorem delivers_of_writable (writable : Writable machine options) :
    Delivers machine options (run machine options) := by
  have course := ends machine options
  generalize outcome : started machine options = result at course
  generalize run machine options = report at course
  cases course with
  | refused => exact .of_unstarted outcome rfl (List.nil_append _).symm
  | unconnected opened failed => exact .of_unstarted outcome rfl rfl
  | @started planned files signer known opened connected =>
      let deployment := runDeployment (runOptions options planned) signer .unlimited
      have seeded := Run.Options.seeds_eq (runOptions_valid options planned)
      have lines : deployment.written = deployment.book.lines :=
        (Run.report_of_takes seeded signer .unlimited rfl).2
      have announced : ∀ failure, deployment.result = .error failure →
          Run.failureEvent failure ∈ deployment.events :=
        fun failure rejected => Run.failureEvent_mem_events seeded signer .unlimited rfl rejected
      obtain ⟨unnamed, delivered⟩ | ⟨name, later, named, delivered, content⟩ :=
        deliver_cases opened writable deployment.written
      · rw [deployThrough_eq _ delivered]
        refine .of_started outcome rfl rfl announced ?_ fun _ => ⟨?_, by rw [lines]⟩
        · intro name named
          rw [unnamed] at named
          contradiction
        · have routed := toError_of_unnamed machine unnamed
          rw [written_append, written_writeLines, written_writeLines,
            Console.printed_output_eq_empty ((printer machine options).stream_of_lines routed _),
            Console.printed_output_eq_empty ((printer machine options).stream_of_lines routed _)]
          rfl
      · rw [deployThrough_eq _ delivered]
        refine .of_started outcome rfl rfl announced ?_ fun unnamed => ?_
        · intro other same
          rw [named, Option.some.injEq] at same
          rw [lines] at content
          exact same ▸ content
        · rw [named] at unnamed
          contradiction

end Deploy

/-- Whenever the program runs the command `deploy`, no exported line is lost and the exit code tells
the truth. -/
theorem delivers_what_it_exports (machine : Machine) (arguments : List String)
    (given : List (Flag × String)) (acts : deploying? arguments = some given)
    (writable : Deploy.Writable machine (.ofOptions given)) :
    Deploy.Delivers machine (.ofOptions given) (run machine arguments) := by
  rw [run_of_deploying acts]
  exact Deploy.delivers_of_writable writable

/-- A machine whose signer refuses the first transaction. -/
def busyMachine : Machine :=
  { environment := [("RPC_URL", "http://localhost:8545")]
    files := FileTree.standard
    workingDirectory := "/work"
    connection := .signer Rollout.Run.busySigner
    colours := false }

/-- A command line that gives the address of the consensus contract and names an output file. -/
def hotShotArguments : List String :=
  ["-vv", "--hotshot", "0x1111111111111111111111111111111111111111", "-o", "deployed.env"]

/-- The options of that command line. -/
def hotShotOptions : List (Flag × String) :=
  [(.verbose, ""), (.verbose, ""),
    (.predeployed .hotShot, "0x1111111111111111111111111111111111111111"), (.out, "deployed.env")]

theorem delivers_what_it_exports_busy :
    deploying? hotShotArguments = some hotShotOptions ∧
      Deploy.Writable busyMachine (.ofOptions hotShotOptions) ∧
      Deploy.Delivers busyMachine (.ofOptions hotShotOptions)
        (run busyMachine hotShotArguments) := by
  have acts : deploying? hotShotArguments = some hotShotOptions := by decide +kernel
  have named : (DeployOptions.ofOptions hotShotOptions).outputFile = some "deployed.env" := rfl
  have writable : Deploy.Writable busyMachine (.ofOptions hotShotOptions) := by
    intro name files same opened
    obtain rfl := Option.some.inj (named.symm.trans same)
    exact (FileTree.opens_of_openForWriting opened).writable_iff.mpr (by decide +kernel)
  exact ⟨acts, writable,
    delivers_what_it_exports busyMachine hotShotArguments hotShotOptions acts writable⟩

end Rollout.Command
