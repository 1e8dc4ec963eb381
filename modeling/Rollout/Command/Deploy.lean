import Rollout.Command.Arguments
import Rollout.Command.Machine
import Rollout.Configuration
import Rollout.Run
import Rollout.Url.Rpc

/-!
# The command `deploy`

The command checks its configuration and opens the output file before it connects to the chain,
and asks for the account that pays before it deploys anything.  Without an output file the exported
lines go to the output stream and all progress to the error stream.
-/

namespace Rollout.Command

/-- What the command `deploy` is asked to do. -/
structure DeployOptions where
  /-- The endpoint. -/
  rpcUrl : Option String
  /-- The key of the account that pays. -/
  privateKey : Option String
  /-- Whether to deploy the light client of tests. -/
  mock : Bool
  /-- The path of the output file. -/
  out : Option String
  /-- The gas limit of every transaction. -/
  gasLimit : Option Number
  /-- The path of the environment file. -/
  dotenv : Option String
  /-- How often more detail is asked for. -/
  verbose : Nat
  /-- The addresses to reuse, as a record by option. -/
  predeployed : Value

namespace DeployOptions

/-- The addresses given as options. -/
def predeployedValue (options : List (Flag × String)) : Value :=
  .record (Contract.all.filterMap fun contract =>
    (valueOf? options (.predeployed contract)).map fun value => (contract.optionKey, .text value))

/-- The meaning of the options of a command line. -/
def ofOptions (options : List (Flag × String)) : DeployOptions :=
  { rpcUrl := valueOf? options .rpcUrl
    privateKey := valueOf? options .privateKey
    mock := countOf options .mock != 0
    out := valueOf? options .out
    gasLimit := (valueOf? options .gasLimit).bind Number.positiveInteger?
    dotenv := valueOf? options .dotenv
    verbose := countOf options .verbose
    predeployed := predeployedValue options }

/-- The path of the output file, if one is named. -/
def outputFile (options : DeployOptions) : Option String := options.out.filter (· != "")

end DeployOptions

namespace Deploy

/-- How the command prints events. -/
def printer (machine : Machine) (options : DeployOptions) : Printer :=
  { verbosity := Console.verbosityOf (.int options.verbose)
    toError := options.outputFile.isNone
    colours := machine.colours
    inspect := machine.inspect }

/-- An option or, where it is absent or empty, the environment variable that stands in for it. -/
def orVariable (option : Option String) (environment : List (String × String)) (name : String) :
    Option String :=
  match option with
  | some value => if value = "" then setting? environment name else some value
  | none => setting? environment name

/-- What the command has checked before it touches anything. -/
structure Plan where
  /-- The endpoint. -/
  rpcUrl : String
  /-- The addresses to reuse. -/
  predeployed : List (Contract × Address)

/-- Check the endpoint and the addresses to reuse. -/
def plan (options : DeployOptions) (environment : List (String × String)) :
    Except String Plan := do
  let rpcUrl := (orVariable options.rpcUrl environment "RPC_URL").getD ""
  if rpcUrl = "" then
    throw ("An RPC URL must be provided via the --rpc-url option or the RPC_URL environment " ++
      "variable.")
  else if !Url.isRpcUrl rpcUrl then throw ("Invalid RPC URL format: " ++ rpcUrl)
  else
    match Configuration.deployedContracts options.predeployed (environmentValue environment) with
    | .ok predeployed => return { rpcUrl, predeployed }
    | .error fault => throw fault.message

/-- Open the output file, if one is named. -/
def openOutput (machine : Machine) (options : DeployOptions) : Except String FileTree :=
  match options.outputFile with
  | none => .ok machine.files
  | some name =>
      let path := machine.path name
      (machine.files.openForWriting path).mapError fun fault =>
        fault.message (path.text machine.workingDirectory)

/-- The event that opens a run. -/
def startEvent (options : DeployOptions) (plan : Plan) : Event :=
  .deploymentStarted plan.rpcUrl (if options.mock then "mock" else "production")
    (plan.predeployed.map fun entry => entry.1.name)

/-- The connection that the command asks for. -/
def request (options : DeployOptions) (plan : Plan) (environment : List (String × String)) :
    Request :=
  { url := plan.rpcUrl
    privateKey := orVariable options.privateKey environment "PRIVATE_KEY"
    gasLimit := options.gasLimit }

/-- Connect and learn about the account that pays. -/
def connect (machine : Machine) : Except String (Signer × Event) :=
  match machine.connection with
  | .refused message => .error message
  | .signer signer =>
      signer.info.map fun (address, chainId) => (signer, .signerInfo chainId address)

/-- The run that the command asks for. -/
def runOptions (options : DeployOptions) (plan : Plan) : Run.Options :=
  { deployed := Configuration.toDeployed plan.predeployed
    mock := options.mock
    mockArguments := none
    destination := options.out.getD "stdout"
    gasLimit := options.gasLimit }

/-- Put the exported lines of a run where they belong; the flag tells whether that failed. -/
def deliver (machine : Machine) (options : DeployOptions) (files : FileTree)
    (lines : List String) : Bool × List Writing × FileTree :=
  let onOutput := lines.map fun line => (Console.Stream.output, line)
  match options.outputFile with
  | none => (false, onOutput, files)
  | some name =>
      match files.write? (machine.path name) (String.join lines) with
      | some files => (false, [], files)
      | none => (true, onOutput, files)

/-- What a message about the failure of the command writes. -/
def complaint (printer : Printer) (message : String) : List Writing :=
  writeLines (printer.lines (.commandFailed (.text message)))

/-- Deploy through a signer, the output file being open. -/
def deployThrough (machine : Machine) (options : DeployOptions) (plan : Plan) (signer : Signer)
    (files : FileTree) : Report :=
  let printer := printer machine options
  let run := runDeployment (runOptions options plan) signer .unlimited
  let (undelivered, writings, files) := deliver machine options files run.written
  { failed := undelivered || !run.result.isOk
    writings :=
      writeLines (printer.linesOf run.events) ++ writings ++
        if undelivered then complaint printer noSpaceMessage else []
    files
    requests := []
    sent := run.sent }

/-- Connect and deploy, the output file being open. -/
def proceed (machine : Machine) (options : DeployOptions)
    (environment : List (String × String)) (plan : Plan) (files : FileTree) : Report :=
  let printer := printer machine options
  let opening := writeLines (printer.lines (startEvent options plan))
  let requests := [request options plan environment]
  match connect machine with
  | .error message =>
      { failed := true
        writings := opening ++ complaint printer message
        files
        requests
        sent := [] }
  | .ok (signer, known) =>
      let report := deployThrough machine options plan signer files
      { report with
        writings := opening ++ writeLines (printer.lines known) ++ report.writings
        requests }

/-- Check the configuration and open the output file. -/
def prepare (machine : Machine) (options : DeployOptions)
    (environment : List (String × String)) : Except String (Plan × FileTree) := do
  let plan ← plan options environment
  let files ← openOutput machine options
  return (plan, files)

/-- Run the command. -/
def run (machine : Machine) (options : DeployOptions) : Report :=
  let environment := machine.loadEnvironment options.dotenv
  match prepare machine options environment with
  | .error message => .ofWritings machine true (complaint (printer machine options) message)
  | .ok (plan, files) => proceed machine options environment plan files

end Deploy

end Rollout.Command
