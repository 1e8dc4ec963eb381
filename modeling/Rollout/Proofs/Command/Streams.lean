import Rollout.Proofs.Command.Delivery

/-!
# What stands on the streams

Without an output file the exported lines are all that stands on the output stream, and the error
stream carries the description of every event, whatever the verbosity and however the invocation
ends.
-/

namespace Rollout

/-- Lines one below the other, wherever each of them is printed. -/
def Console.textOf (lines : List Line) : String :=
  String.join (lines.map fun line => line.text ++ "\n")

theorem Console.printed_error_eq {lines : List Line}
    (errors : ∀ line ∈ lines, line.stream = .error) : printed .error lines = textOf lines := by
  have all : lines.filter (fun line => line.stream == Stream.error) = lines :=
    List.filter_eq_self.mpr fun line member => by simp [errors line member]
  rw [printed, all, textOf]

theorem Printer.linesOf_append (printer : Printer) (first second : List Event) :
    printer.linesOf (first ++ second) = printer.linesOf first ++ printer.linesOf second :=
  List.flatMap_append

theorem Printer.linesOf_single (printer : Printer) (event : Event) :
    printer.linesOf [event] = printer.lines event := by
  rw [linesOf, List.flatMap_singleton]

namespace Command

theorem writeLines_append (first second : List Console.Line) :
    writeLines (first ++ second) = writeLines first ++ writeLines second := List.map_append

theorem written_error_of_output (texts : List String) :
    written .error (texts.map fun text => (.output, text)) = "" := by
  have apart : (texts.map fun text => ((.output, text) : Writing)).filter
      (fun writing => writing.1 == Console.Stream.error) = [] := by
    rw [List.filter_eq_nil_iff]
    intro writing member
    obtain ⟨text, _, rfl⟩ := List.mem_map.mp member
    exact Bool.false_ne_true
  rw [written, apart]
  rfl

namespace Deploy

/-- The events of an invocation that has no output file to deliver to, in order. -/
def reported (machine : Machine) (options : DeployOptions) : List Event :=
  match prepare machine options (machine.loadEnvironment options.dotenv) with
  | .error message => [.commandFailed (.text message)]
  | .ok (plan, _) =>
      startEvent options plan ::
        match connect machine with
        | .error message => [.commandFailed (.text message)]
        | .ok (signer, known) =>
            known :: (runDeployment (runOptions options plan) signer .unlimited).events

/-- The lines that the run of an invocation exports; without a run there are none. -/
def exported (machine : Machine) (options : DeployOptions) : List String :=
  match started machine options with
  | .ok deployment => deployment.written
  | .error _ => []

/-- An invocation keeps what it exports apart from what it reports. -/
structure Separates (machine : Machine) (options : DeployOptions) (report : Report) : Prop where
  output : report.on .output = String.join (exported machine options)
  error : report.on .error =
    Console.textOf ((printer machine options).linesOf (reported machine options))

theorem Separates.of_writings {machine : Machine} {options : DeployOptions} {report : Report}
    (unnamed : options.outputFile = none)
    (writings : report.writings =
      writeLines ((printer machine options).linesOf (reported machine options)) ++
        (exported machine options).map fun line => (Console.Stream.output, line)) :
    Separates machine options report := by
  have errors : ∀ line ∈ (printer machine options).linesOf (reported machine options),
      line.stream = .error :=
    (printer machine options).stream_of_linesOf (toError_of_unnamed machine unnamed) _
  constructor
  · rw [Report.on_eq_written, writings, written_append, written_writeLines,
      Console.printed_output_eq_empty errors, written_output, String.empty_append]
  · rw [Report.on_eq_written, writings, written_append, written_writeLines,
      Console.printed_error_eq errors, written_error_of_output, String.append_empty]

/-- Without an output file an invocation writes about its events in order, then what it
exports. -/
theorem writings_of_unnamed (machine : Machine) {options : DeployOptions}
    (unnamed : options.outputFile = none) :
    (run machine options).writings =
      writeLines ((printer machine options).linesOf (reported machine options)) ++
        (exported machine options).map fun line => (Console.Stream.output, line) := by
  simp only [run, reported, exported, started]
  cases prepared : prepare machine options (machine.loadEnvironment options.dotenv) with
  | error message =>
      simp only [Report.ofWritings, complaint, Printer.linesOf_single]
      exact (List.append_nil _).symm
  | ok ready =>
      obtain ⟨planned, files⟩ := ready
      simp only [proceed]
      cases connected : connect machine with
      | error message =>
          simp only [complaint]
          rw [← List.singleton_append, Printer.linesOf_append, Printer.linesOf_single,
            Printer.linesOf_single, writeLines_append]
          exact (List.append_nil _).symm
      | ok account =>
          obtain ⟨signer, known⟩ := account
          have delivered : ∀ lines : List String, deliver machine options files lines =
              (false, lines.map fun line => (Console.Stream.output, line), files) := by
            intro lines
            rw [deliver, unnamed]
          simp only [deployThrough_eq _ (delivered _)]
          rw [← List.singleton_append, Printer.linesOf_append, Printer.linesOf_single,
            ← List.singleton_append, Printer.linesOf_append, Printer.linesOf_single,
            writeLines_append, writeLines_append]
          simp only [List.append_assoc]
          rfl

end Deploy

/-- Without an output file, the output stream carries the exported lines and nothing else, and the
descriptions of all events stand on the error stream. -/
theorem separates_export_from_reports (machine : Machine) (arguments : List String)
    (given : List (Flag × String)) (acts : deploying? arguments = some given)
    (unnamed : (DeployOptions.ofOptions given).outputFile = none) :
    Deploy.Separates machine (.ofOptions given) (run machine arguments) := by
  rw [run_of_deploying acts]
  exact .of_writings unnamed (Deploy.writings_of_unnamed machine unnamed)

/-- A command line that asks for all details and leaves the name of the output file empty. -/
def detailedArguments : List String :=
  ["deploy", "-vv", "--hotshot", "0x1111111111111111111111111111111111111111", "--out=", "-v"]

/-- The options of that command line. -/
def detailedOptions : List (Flag × String) :=
  [(.verbose, ""), (.verbose, ""),
    (.predeployed .hotShot, "0x1111111111111111111111111111111111111111"), (.out, ""),
    (.verbose, "")]

theorem separates_export_from_reports_detailed :
    deploying? detailedArguments = some detailedOptions ∧
      (DeployOptions.ofOptions detailedOptions).outputFile = none ∧
      Deploy.Separates busyMachine (.ofOptions detailedOptions)
        (run busyMachine detailedArguments) := by
  have acts : deploying? detailedArguments = some detailedOptions := by decide +kernel
  have unnamed : (DeployOptions.ofOptions detailedOptions).outputFile = none := rfl
  exact ⟨acts, unnamed,
    separates_export_from_reports busyMachine detailedArguments detailedOptions acts unnamed⟩

end Command

end Rollout
