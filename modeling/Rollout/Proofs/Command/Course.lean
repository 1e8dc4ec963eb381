import Rollout.Command.Program
import Rollout.Proofs.Checked
import Rollout.Proofs.Export
import Rollout.Proofs.Files
import Rollout.Proofs.Printing
import Rollout.Proofs.Run.Events

/-!
# The course of the command `deploy`

An invocation of the command ends in one of three ways: its checks fail, it cannot learn about the
account that pays, or it starts a run.  The output file is opened when the checks are over, and the
connection is asked for behind that.
-/

namespace Rollout.Command

/-- The options with which the program runs the command `deploy`, if it runs it. -/
def deploying? (arguments : List String) : Option (List (Flag × String)) :=
  match read programFlags arguments with
  | .error _ => none
  | .ok program =>
      let named := program.operands.head?
      if named = some "help" ∨
          (named ≠ some "deploy" ∧ named ≠ some "list" ∧ asksForHelp program.unknown) then none
      else
        match Subcommand.ofOperands program.operands, read deployFlags program.unknown with
        | .deploy, .ok reading => if reading.unknown = [] then some reading.options else none
        | _, _ => none

/-- A program that does not run the command `deploy` only writes. -/
theorem run_cases (machine : Machine) (arguments : List String) :
    (∃ given, deploying? arguments = some given ∧
        run machine arguments = Deploy.run machine (.ofOptions given)) ∨
      deploying? arguments = none ∧
        ∃ failed writings, run machine arguments = .ofWritings machine failed writings := by
  have interrupted : ∀ interruption : Interruption,
      ∃ failed writings, interruption.report machine = .ofWritings machine failed writings := by
    intro interruption
    cases interruption <;> exact ⟨_, _, rfl⟩
  rw [run, deploying?]
  cases read programFlags arguments with
  | error interruption => exact .inr ⟨rfl, interrupted interruption⟩
  | ok program =>
      simp only
      split
      · exact .inr ⟨rfl, _, _, rfl⟩
      · cases Subcommand.ofOperands program.operands with
        | list =>
            -- A listing reads the environment, and whatever comes of it is only printed.
            refine .inr ⟨rfl, ?_⟩
            cases read Subcommand.list.flags program.unknown with
            | error interruption => exact interrupted interruption
            | ok reading =>
                simp only [perform]
                split
                · exact ⟨_, _, rfl⟩
                · split
                  · exact ⟨_, _, rfl⟩
                  · contradiction
                  · simp only [Listing.run]
                    split <;> exact ⟨_, _, rfl⟩
        | deploy =>
            rw [Subcommand.flags]
            cases read deployFlags program.unknown with
            | error interruption => exact .inr ⟨rfl, interrupted interruption⟩
            | ok reading =>
                simp only [perform]
                cases unknown : reading.unknown with
                | nil => exact .inl ⟨reading.options, rfl, rfl⟩
                | cons argument rest =>
                    refine .inr ⟨rfl, ?_⟩
                    split <;> exact ⟨_, _, rfl⟩

theorem run_of_deploying {arguments : List String} {given : List (Flag × String)}
    (acts : deploying? arguments = some given) (machine : Machine) :
    run machine arguments = Deploy.run machine (.ofOptions given) := by
  obtain ⟨other, same, result⟩ | ⟨idle, _⟩ := run_cases machine arguments
  · rw [acts, Option.some.injEq] at same
    rw [result, same]
  · rw [acts] at idle
    contradiction

namespace Deploy

/-- The run that the command starts, or why it starts none. -/
def started (machine : Machine) (options : DeployOptions) : Except String Run.Report := do
  let (plan, _) ← prepare machine options (machine.loadEnvironment options.dotenv)
  let (signer, _) ← connect machine
  return runDeployment (runOptions options plan) signer .unlimited

/-- How an invocation of the command ends, with the run that it has started. -/
inductive Ends (machine : Machine) (options : DeployOptions) :
    Except String Run.Report → Report → Prop
  /-- A check fails; nothing is touched. -/
  | refused {message : String} :
      Ends machine options (.error message)
        (.ofWritings machine true (complaint (printer machine options) message))
  /-- The output file is open, but the account that pays is not known. -/
  | unconnected {plan : Plan} {files : FileTree} {message : String}
      (opened : openOutput machine options = .ok files) (failed : connect machine = .error message) :
      Ends machine options (.error message)
        { failed := true
          writings :=
            writeLines ((printer machine options).lines (startEvent options plan)) ++
              complaint (printer machine options) message
          files
          requests := [request options plan (machine.loadEnvironment options.dotenv)]
          sent := [] }
  /-- A run is started, and its lines are delivered. -/
  | started {plan : Plan} {files : FileTree} {signer : Signer} {known : Event}
      (opened : openOutput machine options = .ok files)
      (connected : connect machine = .ok (signer, known)) :
      Ends machine options (.ok (runDeployment (runOptions options plan) signer .unlimited))
        { deployThrough machine options plan signer files with
          writings :=
            writeLines ((printer machine options).lines (startEvent options plan)) ++
              writeLines ((printer machine options).lines known) ++
                (deployThrough machine options plan signer files).writings
          requests := [request options plan (machine.loadEnvironment options.dotenv)] }

theorem openOutput_of_prepare {machine : Machine} {options : DeployOptions}
    {environment : List (String × String)} {planned : Plan} {files : FileTree}
    (prepared : prepare machine options environment = .ok (planned, files)) :
    openOutput machine options = .ok files := by
  rw [prepare, bind_eq_ok] at prepared
  obtain ⟨_, _, prepared⟩ := prepared
  rw [bind_eq_ok] at prepared
  obtain ⟨_, opened, prepared⟩ := prepared
  rw [pure_eq_ok] at prepared
  rw [opened, (Prod.mk.inj prepared).2]

theorem openOutput_cases {machine : Machine} {options : DeployOptions} {files : FileTree}
    (opened : openOutput machine options = .ok files) :
    options.outputFile = none ∧ files = machine.files ∨
      ∃ name, options.outputFile = some name ∧
        machine.files.openForWriting (machine.path name) = .ok files := by
  rw [openOutput] at opened
  cases named : options.outputFile with
  | none =>
      rw [named] at opened
      exact .inl ⟨rfl, (Except.ok.inj opened).symm⟩
  | some name =>
      simp only [named, mapError_eq_ok] at opened
      exact .inr ⟨name, rfl, opened⟩

/-- A run is started when all checks pass and the connection is made. -/
theorem started_eq_ok {machine : Machine} {options : DeployOptions} {deployment : Run.Report} :
    started machine options = .ok deployment ↔
      ∃ planned files signer known,
        prepare machine options (machine.loadEnvironment options.dotenv) = .ok (planned, files) ∧
        connect machine = .ok (signer, known) ∧
        runDeployment (runOptions options planned) signer .unlimited = deployment := by
  rw [started, bind_eq_ok]
  constructor
  · rintro ⟨⟨planned, files⟩, prepared, ran⟩
    rw [bind_eq_ok] at ran
    obtain ⟨⟨signer, known⟩, connected, ran⟩ := ran
    exact ⟨planned, files, signer, known, prepared, connected, pure_eq_ok.mp ran⟩
  · rintro ⟨planned, files, signer, known, prepared, connected, ran⟩
    exact ⟨(planned, files), prepared,
      bind_eq_ok.mpr ⟨(signer, known), connected, pure_eq_ok.mpr ran⟩⟩

theorem started_ne_ok {machine : Machine} {message : String}
    (failed : connect machine = .error message) (options : DeployOptions)
    (deployment : Run.Report) : started machine options ≠ .ok deployment := by
  intro success
  obtain ⟨_, _, _, _, _, connected, _⟩ := started_eq_ok.mp success
  rw [failed] at connected
  contradiction

theorem ends (machine : Machine) (options : DeployOptions) :
    Ends machine options (started machine options) (run machine options) := by
  simp only [started, run]
  cases prepared : prepare machine options (machine.loadEnvironment options.dotenv) with
  | error message => exact .refused
  | ok ready =>
      have opened := openOutput_of_prepare prepared
      simp only [proceed]
      cases connected : connect machine with
      | error message => exact .unconnected opened connected
      | ok account => exact .started opened connected

end Deploy

end Rollout.Command
