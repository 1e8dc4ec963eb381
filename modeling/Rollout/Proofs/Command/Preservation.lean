import Rollout.Proofs.Command.Course

/-!
# Files without a run

A program that starts no run leaves every file alone but the output file.  The output file is
emptied, or created, when the connection is asked for and it turns out that there is no account
that pays; until then it is left alone as well.
-/

namespace Rollout.Command

/-- The path of the output file that a command line names for the command `deploy`. -/
def outputPath? (machine : Machine) (arguments : List String) : Option Path :=
  (deploying? arguments).bind fun given =>
    (DeployOptions.ofOptions given).outputFile.map machine.path

/-- What is left of the files by a program that starts no run. -/
inductive Leaves (before : FileTree) (output : Option Path) (report : Report) : Prop
  /-- All files are left alone: no connection is asked for, or no output file is named, or there is
  a device at its path. -/
  | alone (same : report.files = before)
      (spared : report.requests = [] ∨ output = none ∨
        ∃ path, output = some path ∧
          (before.find? path = some .discard ∨ before.find? path = some .full))
  /-- The output file is empty, and all other files are left alone. -/
  | emptied {path : Path} (named : output = some path) (asked : report.requests ≠ [])
      (place : before.find? path = none ∨ ∃ content, before.find? path = some (.file content))
      (empty : report.files.find? path = some (.file ""))
      (others : ∀ other, other ≠ path → report.files.find? other = before.find? other)

/-- A program that starts no run leaves all files alone, or empties the output file when a
connection has been asked for. -/
theorem leaves_files_without_run (machine : Machine) (arguments : List String)
    (unstarted : ∀ given deployment, deploying? arguments = some given →
      Deploy.started machine (.ofOptions given) ≠ .ok deployment) :
    Leaves machine.files (outputPath? machine arguments) (run machine arguments) := by
  obtain ⟨given, acts, result⟩ | ⟨_, _, _, result⟩ := run_cases machine arguments
  · have path : outputPath? machine arguments =
        (DeployOptions.ofOptions given).outputFile.map machine.path := by
      rw [outputPath?, acts, Option.bind_some]
    have course := Deploy.ends machine (.ofOptions given)
    rw [result, path]
    generalize Deploy.run machine (.ofOptions given) = report at course
    generalize started : Deploy.started machine (.ofOptions given) = outcome at course
    cases course with
    | refused =>
        -- The checks come before the output file is opened.
        exact .alone rfl (.inl rfl)
    | started => exact absurd started (unstarted given _ acts)
    | unconnected opened failed =>
        obtain ⟨unnamed, rfl⟩ | ⟨name, named, opened⟩ := Deploy.openOutput_cases opened
        · exact .alone rfl (.inr (.inl (by rw [unnamed, Option.map_none])))
        · have output : (DeployOptions.ofOptions given).outputFile.map machine.path =
              some (machine.path name) := by rw [named, Option.map_some]
          cases FileTree.opens_of_openForWriting opened with
          | device place => exact .alone rfl (.inr (.inr ⟨_, output, place⟩))
          | file proper place =>
              exact .emptied output (List.cons_ne_nil _ _) place
                (FileTree.find?_insert_self proper _ _)
                fun other apart => FileTree.find?_insert_of_ne apart _ _
  · rw [result]
    exact .alone rfl (.inl rfl)

/-- A machine with the output file of an earlier run that cannot connect to the chain. -/
def unreachableMachine : Machine :=
  { environment := []
    files := FileTree.standard.addFile (.resolve "/work" "deployed.env")
      "ESPRESSO_SEQUENCER_LIGHT_CLIENT_ADDRESS=0x1111111111111111111111111111111111111111\n"
    workingDirectory := "/work"
    connection := .refused "connection refused"
    colours := false }

/-- A command line that names the output file. -/
def outputArguments : List String :=
  ["deploy", "--rpc-url", "http://localhost:8545", "--out", "deployed.env"]

theorem leaves_files_without_run_unreachable :
    (∀ given deployment, deploying? outputArguments = some given →
        Deploy.started unreachableMachine (.ofOptions given) ≠ .ok deployment) ∧
      outputPath? unreachableMachine outputArguments =
        some (unreachableMachine.path "deployed.env") ∧
      Leaves unreachableMachine.files (outputPath? unreachableMachine outputArguments)
        (run unreachableMachine outputArguments) := by
  have unstarted : ∀ given deployment, deploying? outputArguments = some given →
      Deploy.started unreachableMachine (.ofOptions given) ≠ .ok deployment :=
    fun _ deployment _ => Deploy.started_ne_ok rfl _ deployment
  exact ⟨unstarted, by decide +kernel,
    leaves_files_without_run unreachableMachine outputArguments unstarted⟩

/-- When the connection fails, the addresses of the earlier run are lost. -/
theorem unreachable_empties_output :
    (∀ given deployment, deploying? outputArguments = some given →
        Deploy.started unreachableMachine (.ofOptions given) ≠ .ok deployment) ∧
      unreachableMachine.files.find? (unreachableMachine.path "deployed.env") =
        some (.file
          "ESPRESSO_SEQUENCER_LIGHT_CLIENT_ADDRESS=0x1111111111111111111111111111111111111111\n") ∧
      (run unreachableMachine outputArguments).exitCode = 1 ∧
      (run unreachableMachine outputArguments).files.find?
          (unreachableMachine.path "deployed.env") =
        some (.file "") :=
  ⟨fun _ deployment _ => Deploy.started_ne_ok rfl _ deployment, by decide +kernel,
    by decide +kernel, by decide +kernel⟩

end Rollout.Command
