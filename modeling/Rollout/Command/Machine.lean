import Rollout.Console.Printer
import Rollout.Dotenv
import Rollout.Files
import Rollout.Signer

/-!
# The surroundings of a command

What a command is given and what it leaves behind.
-/

namespace Rollout.Command

/-- What a connection to the chain would give. -/
inductive Connection where
  /-- Connecting fails. -/
  | refused (message : String)
  /-- Connecting gives a signer. -/
  | signer (signer : Signer)
  deriving Inhabited

/-- What a command is given besides its options. -/
structure Machine where
  /-- The environment. -/
  environment : List (String × String)
  /-- The files. -/
  files : FileTree
  /-- The working directory. -/
  workingDirectory : String
  /-- What a connection to the chain would give. -/
  connection : Connection
  /-- Whether lines are coloured. -/
  colours : Bool
  /-- How the runtime inspects a value. -/
  inspect : Value → String := Console.inspect
  deriving Inhabited

/-- A request for a connection. -/
structure Request where
  /-- The endpoint. -/
  url : String
  /-- The key of the account that pays, if one is given. -/
  privateKey : Option String
  /-- The gas limit of every transaction, if fixed. -/
  gasLimit : Option Number
  deriving DecidableEq, Inhabited

/-- A text that is written to a stream. -/
abbrev Writing := Console.Stream × String

/-- What a command leaves behind. -/
structure Report where
  /-- Whether the command has failed. -/
  failed : Bool
  /-- What has been written to the streams, in order. -/
  writings : List Writing
  /-- The files afterwards. -/
  files : FileTree
  /-- The requests for connections, in order. -/
  requests : List Request
  /-- The transactions, in order. -/
  sent : List Transaction
  deriving Inhabited

namespace Report

/-- The exit code. -/
def exitCode (report : Report) : Nat := if report.failed then 1 else 0

/-- What has been written to a stream. -/
def on (report : Report) (stream : Console.Stream) : String :=
  String.join ((report.writings.filter fun writing => writing.1 == stream).map Prod.snd)

/-- A report of a command that has only written. -/
def ofWritings (machine : Machine) (failed : Bool) (writings : List Writing) : Report :=
  { failed, writings, files := machine.files, requests := [], sent := [] }

end Report

/-- Lines as they are written. -/
def writeLines (lines : List Console.Line) : List Writing :=
  lines.map fun line => (line.stream, line.text ++ "\n")

namespace Machine

/-- The path that a text names. -/
def path (machine : Machine) (text : String) : Path := .resolve machine.workingDirectory text

/-- The environment together with the assignments of an environment file: that of the given path,
or `.env` if none is given.  A file that cannot be read assigns nothing. -/
def loadEnvironment (machine : Machine) (path : Option String) : List (String × String) :=
  let name := (path.filter (· != "")).getD ".env"
  match machine.files.read? (machine.path name) with
  | some content => Dotenv.extend machine.environment (Dotenv.parse content)
  | none => machine.environment

end Machine

/-- The value of an environment variable. -/
def setting? (environment : List (String × String)) (name : String) : Option String :=
  (environment.find? fun entry => entry.1 == name).map Prod.snd

/-- An environment as a record. -/
def environmentValue (environment : List (String × String)) : Value :=
  .record (environment.map fun entry => (entry.1, .text entry.2))

end Rollout.Command
