import Rollout.Proofs.Command.Streams

/-!
# Where a run is said to write

The run of an invocation announces a destination, its lines are put on the output stream or into a
file, and its progress is printed on one of the streams.  All three follow from the option that
names the output file: the destination is `stdout` exactly when the lines go to the output stream,
and just then all progress goes to the error stream.  An option with an empty name is the
exception; with it the announced destination is empty.
-/

namespace Rollout

/-- The destination that an event announces. -/
def Event.destination? : Event → Option String
  | addressesWritten destination _ => some destination
  | _ => none

theorem Event.destination?_of_isStep {event : Event} (step : event.isStep = true) :
    event.destination? = none := by
  cases event with
  | addressesWritten => contradiction
  | _ => rfl

/-- A run whose lines are all taken announces its destination once. -/
theorem Run.destinations_of_takes {options : Run.Options} {book : AddressBook}
    (seeded : options.seeds = .ok book) (signer : Signer) (sink : Sink)
    (takes : sink.Takes (runDeployment options signer sink).book.lines) :
    (runDeployment options signer sink).events.filterMap Event.destination? =
      [options.destination] := by
  obtain ⟨steps, only, events⟩ := Run.report_events seeded signer sink
  have silent : steps.filterMap Event.destination? = [] :=
    List.filterMap_eq_nil_iff.mpr fun event member =>
      Event.destination?_of_isStep (only event member)
  rw [events, if_pos takes, List.filterMap_append, silent]
  cases (outcome (deployment options) (options.opening signer book)).1 <;> rfl

/-- All lines about progress go to the stream that is chosen for it. -/
theorem Printer.stream_of_progress (printer : Printer) {event : Event}
    (progress : event.level ≠ .error) :
    ∀ line ∈ printer.lines event,
      line.stream = if printer.toError then .error else .output := by
  have described : ∀ line ∈ printer.describe event,
      line.stream = if printer.toError then .error else .output := by
    cases event with
    | deploymentFailed | contractFailed | unhandledRejection | uncaughtException
    | commandFailed => exact absurd rfl progress
    | deploymentStarted rpcUrl variant predeployed =>
        by_cases none : predeployed.isEmpty <;> simp [describe, Printer.progress, none]
    | _ => simp [describe, Printer.progress]
  intro line shown
  rw [lines] at shown
  split at shown
  · contradiction
  · exact described line shown

theorem FileTree.exists_write?_empty (files : FileTree) (path : Path) :
    ∃ later, files.write? path "" = some later := by
  rw [write?]
  cases files.find? path with
  | none => exact ⟨_, rfl⟩
  | some item => cases item <;> exact ⟨_, rfl⟩

namespace Command.Deploy

/-! ## Where the lines go -/

/-- Whatever lines a run exports, they go to the output stream, and no file is touched. -/
def ToOutput (machine : Machine) (options : DeployOptions) (files : FileTree) : Prop :=
  ∀ lines, deliver machine options files lines =
    (false, lines.map fun line => (Console.Stream.output, line), files)

/-- Whatever lines a run exports, they go into a file that takes them, and nothing goes to a
stream. -/
def ToFile (machine : Machine) (options : DeployOptions) (files : FileTree) (name : String) :
    Prop :=
  ∀ lines later, files.write? (machine.path name) (String.join lines) = some later →
    deliver machine options files lines = (false, [], later)

variable {machine : Machine} {options : DeployOptions} {files : FileTree}

theorem toOutput_of_unnamed (unnamed : options.outputFile = none) :
    ToOutput machine options files := by
  intro lines
  rw [deliver, unnamed]

theorem toFile_of_named {name : String} (named : options.outputFile = some name) :
    ToFile machine options files name := by
  intro lines later written
  simp only [deliver, named, written]

theorem toOutput_iff : ToOutput machine options files ↔ options.outputFile = none := by
  refine ⟨fun output => ?_, toOutput_of_unnamed⟩
  cases named : options.outputFile with
  | none => rfl
  | some name =>
      -- An empty line is taken by every file, and none of it is seen on a stream.
      obtain ⟨later, written⟩ := files.exists_write?_empty (machine.path name)
      have silent : deliver machine options files [""] = (false, [], later) :=
        toFile_of_named named [""] later written
      rw [output [""]] at silent
      simp at silent

theorem outputFile_of_none (absent : options.out = none) : options.outputFile = none := by
  rw [DeployOptions.outputFile, absent]
  rfl

theorem outputFile_of_some {name : String} (given : options.out = some name)
    (filled : name ≠ "") : options.outputFile = some name := by
  simp [DeployOptions.outputFile, given, filled]

/-- A run announces the name of the output file as it is given, even if that is empty. -/
theorem destinations_of_started {deployment : Run.Report}
    (ran : started machine options = .ok deployment) :
    deployment.events.filterMap Event.destination? = [options.out.getD "stdout"] := by
  obtain ⟨planned, _, signer, _, _, _, rfl⟩ := started_eq_ok.mp ran
  exact Run.destinations_of_takes
    (Run.Options.seeds_eq (runOptions_valid options planned)) signer .unlimited rfl

/-! ## The invocation -/

/-- An invocation with a run does what the run announces. -/
structure KeepsWord (machine : Machine) (options : DeployOptions) (deployment : Run.Report)
    (report : Report) (files : FileTree) (destination : String) : Prop where
  /-- The files when the output file, if there is one, is open. -/
  opened : openOutput machine options = .ok files
  /-- The run announces one destination. -/
  announced : deployment.events.filterMap Event.destination? = [destination]
  /-- The invocation writes about its events and then what delivering the lines of the run
  writes; only a complaint can follow. -/
  writings : ∃ complaint, (∀ writing ∈ complaint, writing.1 = Console.Stream.error) ∧
    report.writings =
      writeLines ((printer machine options).linesOf (reported machine options)) ++
        (deliver machine options files deployment.written).2.1 ++ complaint
  /-- The files are those that delivering the lines of the run leaves. -/
  left : report.files = (deliver machine options files deployment.written).2.2
  /-- The destination is `stdout` if and only if the lines go to the output stream. -/
  output_iff : destination = "stdout" ↔ ToOutput machine options files
  /-- The destination is the named file if and only if the lines go into it. -/
  file_iff : ∀ name, options.out = some name →
    (destination = name ↔ ToFile machine options files name)
  /-- Progress is printed on the error stream if and only if the lines go to the output stream. -/
  progress_iff : ∀ event ∈ reported machine options, event.level ≠ .error →
    ∀ line ∈ (printer machine options).lines event,
      (line.stream = .error ↔ ToOutput machine options files)

theorem complaint_stream (machine : Machine) (options : DeployOptions) (message : String) :
    ∀ writing ∈ complaint (printer machine options) message,
      writing.1 = Console.Stream.error := by
  intro writing member
  rw [complaint_eq] at member
  obtain ⟨line, shown, rfl⟩ := List.mem_map.mp member
  exact (printer machine options).stream_of_failure rfl line shown

/-- What an invocation that starts a run writes and leaves. -/
theorem exists_delivered {deployment : Run.Report}
    (ran : started machine options = .ok deployment) :
    ∃ files, openOutput machine options = .ok files ∧
      (∃ complaint, (∀ writing ∈ complaint, writing.1 = Console.Stream.error) ∧
        (run machine options).writings =
          writeLines ((printer machine options).linesOf (reported machine options)) ++
            (deliver machine options files deployment.written).2.1 ++ complaint) ∧
      (run machine options).files = (deliver machine options files deployment.written).2.2 := by
  obtain ⟨planned, files, signer, known, prepared, connected, rfl⟩ := started_eq_ok.mp ran
  refine ⟨files, openOutput_of_prepare prepared, ?_, ?_⟩
  · refine ⟨if (deliver machine options files
        (runDeployment (runOptions options planned) signer .unlimited).written).1 then
      complaint (printer machine options) noSpaceMessage else [], ?_, ?_⟩
    · intro writing member
      split at member
      · exact complaint_stream machine options noSpaceMessage writing member
      · contradiction
    · simp only [run, prepared, proceed, connected, deployThrough, reported]
      rw [← List.singleton_append, Printer.linesOf_append, Printer.linesOf_single,
        ← List.singleton_append, Printer.linesOf_append, Printer.linesOf_single,
        writeLines_append, writeLines_append]
      simp only [List.append_assoc]
  · simp only [run, prepared, proceed, connected, deployThrough]

end Command.Deploy

open Command.Deploy in
/-- Whenever the command `deploy` starts a run and the name of the output file is not empty, what
the run announces, where its lines go and where progress is printed agree. -/
theorem Command.keeps_announced_destination (machine : Machine) (arguments : List String)
    (given : List (Flag × String)) (acts : deploying? arguments = some given)
    (deployment : Run.Report) (ran : started machine (.ofOptions given) = .ok deployment)
    (filled : (DeployOptions.ofOptions given).out ≠ some "")
    (apart : (DeployOptions.ofOptions given).out ≠ some "stdout") :
    ∃ files destination,
      KeepsWord machine (.ofOptions given) deployment (run machine arguments) files
        destination := by
  generalize option : DeployOptions.ofOptions given = options at ran filled apart ⊢
  obtain ⟨files, opened, writings, left⟩ := exists_delivered ran
  rw [run_of_deploying acts, option]
  have routed : (Deploy.printer machine options).toError = options.outputFile.isNone := rfl
  refine ⟨files, options.out.getD "stdout", opened, destinations_of_started ran, writings, left,
    ?_, ?_, ?_⟩
  · rw [toOutput_iff]
    cases out : options.out with
    | none => exact iff_of_true rfl (outputFile_of_none out)
    | some name =>
        have named := outputFile_of_some out fun empty => filled (empty ▸ out)
        rw [named]
        exact iff_of_false (fun same => apart (same ▸ out)) (Option.some_ne_none name)
  · intro name out
    have named := outputFile_of_some out fun empty => filled (empty ▸ out)
    rw [out]
    exact iff_of_true rfl (toFile_of_named named)
  · intro event _ progress line shown
    rw [toOutput_iff, (Deploy.printer machine options).stream_of_progress progress line shown,
      routed]
    cases options.outputFile <;> simp

namespace Command

/-- A machine with the usual files whose signer takes every transaction. -/
def readyMachine : Machine :=
  { environment := []
    files := FileTree.standard
    workingDirectory := "/work"
    connection := .signer Run.usualSigner
    colours := false }

/-- A command line with a name for the output file. -/
def argumentsFor (name : String) : List String :=
  ["deploy", "--rpc-url", "http://localhost:8545", "--out=" ++ name, "-v"]

/-- The options of that command line. -/
def optionsFor (name : String) : List (Flag × String) :=
  [(.rpcUrl, "http://localhost:8545"), (.out, name), (.verbose, "")]

theorem keeps_announced_destination_named :
    ∃ deployment,
      deploying? (argumentsFor "deployed.env") = some (optionsFor "deployed.env") ∧
      Deploy.started readyMachine (.ofOptions (optionsFor "deployed.env")) = .ok deployment ∧
      (DeployOptions.ofOptions (optionsFor "deployed.env")).out ≠ some "" ∧
      (DeployOptions.ofOptions (optionsFor "deployed.env")).out ≠ some "stdout" ∧
      ∃ files destination,
        Deploy.KeepsWord readyMachine (.ofOptions (optionsFor "deployed.env")) deployment
          (run readyMachine (argumentsFor "deployed.env")) files destination := by
  have acts : deploying? (argumentsFor "deployed.env") = some (optionsFor "deployed.env") := by
    decide +kernel
  have started : (Deploy.started readyMachine
      (.ofOptions (optionsFor "deployed.env"))).isOk = true := by decide +kernel
  obtain ⟨deployment, ran⟩ := eq_ok_of_isOk started
  have filled : (DeployOptions.ofOptions (optionsFor "deployed.env")).out ≠ some "" := by decide
  have apart : (DeployOptions.ofOptions (optionsFor "deployed.env")).out ≠ some "stdout" := by
    decide
  exact ⟨deployment, acts, ran, filled, apart,
    keeps_announced_destination readyMachine _ _ acts deployment ran filled apart⟩

/-- With an empty name for the output file the lines go to the output stream, but the destination
that the run announces is the empty name. -/
theorem empty_name_announced :
    deploying? (argumentsFor "") = some (optionsFor "") ∧
      ∃ deployment files,
        Deploy.started readyMachine (.ofOptions (optionsFor "")) = .ok deployment ∧
        Deploy.openOutput readyMachine (.ofOptions (optionsFor "")) = .ok files ∧
        Deploy.ToOutput readyMachine (.ofOptions (optionsFor "")) files ∧
        deployment.events.filterMap Event.destination? = [""] := by
  have started : (Deploy.started readyMachine (.ofOptions (optionsFor ""))).isOk = true := by
    decide +kernel
  obtain ⟨deployment, ran⟩ := eq_ok_of_isOk started
  exact ⟨by decide +kernel, deployment, readyMachine.files, ran, rfl,
    Deploy.toOutput_of_unnamed rfl, Deploy.destinations_of_started ran⟩

end Command

end Rollout
