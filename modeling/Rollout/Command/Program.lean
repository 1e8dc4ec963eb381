import Rollout.Command.List
import Rollout.Command.Suggestion

/-!
# The program

The first operand selects the command; without a known one the program deploys.  The version is
shown wherever it is asked for.
-/

namespace Rollout.Command

/-- The version of the program. -/
def version : String := "0.1.0"

/-- The name of the program. -/
def programName : String := "lc-deploy"

/-- A command of the program. -/
inductive Subcommand where
  /-- Deploy the light client. -/
  | deploy
  /-- List the tracked contracts. -/
  | list
  deriving DecidableEq

namespace Subcommand

/-- The command that operands select. -/
def ofOperands (operands : List String) : Subcommand :=
  match operands.head? with
  | some "list" => list
  | _ => deploy

/-- The options of a command. -/
def flags : Subcommand → List Flag
  | deploy => deployFlags
  | list => listFlags

/-- The name of a command. -/
def name : Subcommand → String
  | deploy => "deploy"
  | list => "list"

end Subcommand

/-- A row of the help. -/
def helpRow (term description : String) : String := "  " ++ term ++ "  " ++ description ++ "\n"

/-- The help of the program. -/
def programHelp : String :=
  "Usage: " ++ programName ++ " [options] [command]\n\n" ++
    "Deploys the light client contract and its linked libraries\n\nOptions:\n" ++
    helpRow Flag.version.usage Flag.version.description ++ "\nCommands:\n" ++
    helpRow "deploy [options]" "Deploy the light client and the libraries it links" ++
    helpRow "list [options]" "List the tracked contracts"

/-- The help of a command. -/
def commandHelp (command : Subcommand) : String :=
  "Usage: " ++ programName ++ " " ++ command.name ++ " [options]\n\nOptions:\n" ++
    String.join (command.flags.map fun flag => helpRow flag.usage flag.description)

/-- Whether help is asked for. -/
def asksForHelp (arguments : List String) : Bool :=
  arguments.any fun argument => argument == "-h" || argument == "--help"

/-- What an interruption writes, and whether it is a failure. -/
def Interruption.report (machine : Machine) : Interruption → Report
  | version => .ofWritings machine false [(.output, Command.version ++ "\n")]
  | missingValue flag =>
      .ofWritings machine true
        [(.error, "error: option '" ++ flag.usage ++ "' argument missing\n")]
  | badValue flag value =>
      .ofWritings machine true
        [(.error, "error: option '" ++ flag.usage ++ "' argument '" ++ value ++
          "' is invalid. Must be a positive integer.\n")]

/-- The complaint about an unknown option of a command. -/
def unknownOption (command : Subcommand) (argument : String) : String :=
  let candidates := command.flags.map Flag.longName ++ ["help", "version"]
  "error: unknown option '" ++ argument ++ "'" ++ Suggestion.line argument candidates ++ "\n"

/-- Perform a command with the options that have been read. -/
def perform (machine : Machine) (command : Subcommand) (reading : Reading) : Report :=
  if asksForHelp reading.unknown then
    .ofWritings machine false [(.output, commandHelp command)]
  else
    match reading.unknown, command with
    | argument :: _, command =>
        .ofWritings machine true [(.error, unknownOption command argument)]
    | [], .deploy => Deploy.run machine (.ofOptions reading.options)
    | [], .list => Listing.run machine reading.options

/-- Run the program with its arguments. -/
def run (machine : Machine) (arguments : List String) : Report :=
  match read programFlags arguments with
  | .error interruption => interruption.report machine
  | .ok program =>
      let named := program.operands.head?
      if named = some "help" ∨
          (named ≠ some "deploy" ∧ named ≠ some "list" ∧ asksForHelp program.unknown) then
        .ofWritings machine false [(.output, programHelp)]
      else
        let command := Subcommand.ofOperands program.operands
        match read command.flags program.unknown with
        | .error interruption => interruption.report machine
        | .ok reading => perform machine command reading

/-- How a failure reaches the outermost layer of the program. -/
inductive Crash where
  /-- A failure that nobody waited for. -/
  | unhandledRejection
  /-- A failure that nobody caught. -/
  | uncaughtException

/-- Report a failure that has reached the outermost layer; the program then ends. -/
def crash (machine : Machine) (crash : Crash) (reason : Value) : Report :=
  let event : Event :=
    match crash with
    | .unhandledRejection => .unhandledRejection reason
    | .uncaughtException => .uncaughtException reason
  let printer : Printer :=
    { verbosity := 0, toError := false, colours := machine.colours, inspect := machine.inspect }
  .ofWritings machine true (writeLines (printer.lines event))

end Rollout.Command
