import Rollout.Console.Inspect
import Rollout.Console.Style
import Rollout.Event
import Rollout.Text.Uppercase

/-!
# Printing events

A printer shows an event if its verbosity reaches the event's threshold, and then all of it.
Failures go to the error stream; progress goes to the output stream unless it is sent to the error
stream, too.
-/

namespace Rollout

namespace Console

/-- Where a line is printed. -/
inductive Stream where
  /-- The output stream. -/
  | output
  /-- The error stream. -/
  | error
  deriving DecidableEq

/-- A printed line. -/
structure Line where
  /-- Where it is printed. -/
  stream : Stream
  /-- What it says, without the line end. -/
  text : String
  deriving DecidableEq

/-- What is printed on a stream. -/
def printed (stream : Stream) (lines : List Line) : String :=
  String.join ((lines.filter fun line => line.stream == stream).map fun line => line.text ++ "\n")

/-- The verbosity of a count of requests for more detail. -/
def verbosityOf (count : Number) : Int :=
  if count != .notANumber && !count.exceeds 0 then 0
  else if count = .int 1 then 1
  else if count = .int 2 then 2
  else 3

end Console

/-- The least verbosity at which an event is shown. -/
def Event.threshold : Event → Int
  | deploymentStarted .. | deploymentCompleted .. | deploymentFailed .. | contractSkipped ..
  | contractDeployed .. | contractFailed .. | unhandledRejection .. | uncaughtException ..
  | commandFailed .. => 0
  | signerInfo .. | contractStarted .. | transactionSent .. | transactionConfirmed ..
  | addressesWritten .. => 1
  | libraryLinked .. => 2
  | foreign _ => 0

/-- How events are printed. -/
structure Printer where
  /-- How much is shown. -/
  verbosity : Int
  /-- Whether progress goes to the error stream. -/
  toError : Bool
  /-- Whether lines are coloured. -/
  colours : Bool
  /-- How the runtime inspects a value. -/
  inspect : Value → String := Console.inspect

namespace Printer

open Console

/-- A line of progress. -/
def progress (printer : Printer) (styles : List Style) (text : String) : Line :=
  ⟨if printer.toError then .error else .output, paint printer.colours styles text⟩

/-- A line about a failure. -/
def complaint (printer : Printer) (styles : List Style) (text : String) : Line :=
  ⟨.error, paint printer.colours styles text⟩

/-- A value as it is shown behind a text: a text as it is, and anything else inspected. -/
def shown (printer : Printer) : Value → String
  | .text content => content
  | value => printer.inspect value

/-- A line about a failure that ends in a value. -/
def complaintAbout (printer : Printer) (text : String) (value : Value) : Line :=
  ⟨.error, paint printer.colours [.red] text ++ " " ++ printer.shown value⟩

/-- All lines about an event. -/
def describe (printer : Printer) : Event → List Line
  | .deploymentStarted rpcUrl variant predeployed =>
      [printer.progress [.bold, .inverse]
          (" DEPLOYING " ++ Text.uppercase variant ++ " LIGHT CLIENT "),
        printer.progress [.gray] ("   - RPC: " ++ rpcUrl)] ++
        if predeployed.isEmpty then []
        else
          [printer.progress [.gray]
            ("   - Predeployed: " ++ String.intercalate ", " predeployed)]
  | .signerInfo chainId address =>
      [printer.progress [.gray]
        ("   - Sender: " ++ address ++ " (ChainID: " ++ chainId.text ++ ")")]
  | .contractSkipped contract address =>
      [printer.progress [.yellow]
        ("  ↪ Skipping deployment of " ++ contract ++ ", already deployed at " ++ address)]
  | .contractStarted contract => [printer.progress [.blue] ("  - Deploying " ++ contract)]
  | .contractDeployed contract address =>
      [printer.progress [.green] ("  ✅ Deployed " ++ contract ++ " at " ++ address)]
  | .contractFailed contract error =>
      [printer.complaint [.red] ("  ❌ " ++ contract ++ " failed: " ++ error)]
  | .libraryLinked contractName library address =>
      [printer.progress [.magenta]
        ("      Linked " ++ library ++ " into " ++ contractName ++ " at " ++ address)]
  | .transactionSent receiver _ dataPreview txHash =>
      [printer.progress [.gray] ("        to: " ++ receiver ++ ", data: " ++ dataPreview ++ "..."),
        printer.progress [.gray] ("        tx hash: " ++ txHash)]
  | .transactionConfirmed _ blockNumber _ =>
      [printer.progress [.gray] ("        tx confirmed in block: " ++ blockNumber.display)]
  | .addressesWritten destination count =>
      [printer.progress [.green]
        ("   - Wrote " ++ count.text ++ " addresses to " ++ destination)]
  | .deploymentCompleted address =>
      [printer.progress [.bold, .inverse] ("\n LIGHT CLIENT READY AT " ++ address ++ " ")]
  | .deploymentFailed error stack contract =>
      printer.complaint [.red, .bold] "\n💥 DEPLOYMENT FAILED!" ::
        (match contract with
          | some name =>
              if name = "" then []
              else [printer.complaint [.red] ("   ✗ Failed contract: " ++ name)]
          | none => []) ++
        [printer.complaint [.red] (stack.getD error)]
  | .unhandledRejection reason => [printer.complaintAbout "Unhandled Rejection:" reason]
  | .uncaughtException error => [printer.complaintAbout "Uncaught Exception:" error]
  | .commandFailed message => [printer.complaintAbout "Error:" message]
  | .foreign _ => []

/-- The lines that are shown about an event. -/
def lines (printer : Printer) (event : Event) : List Line :=
  if printer.verbosity < event.threshold then [] else printer.describe event

/-- The lines that are shown about several events. -/
def linesOf (printer : Printer) (events : List Event) : List Line :=
  events.flatMap printer.lines

end Printer

end Rollout
