import Rollout.Command.Program

/-!
# The command line

The outermost layer: it collects what the program is given, runs it, and carries out what it
reports.  Connections to a chain are not available from here.
-/

namespace Rollout

open Command

/-- The environment variables that the program reads. -/
def knownVariables : List String :=
  ["RPC_URL", "PRIVATE_KEY"] ++ Contract.all.map Contract.envName

/-- The paths that a command line names. -/
def namedPaths (arguments : List String) : List String :=
  match read programFlags arguments with
  | .error _ => []
  | .ok program =>
      match read (Subcommand.ofOperands program.operands).flags program.unknown with
      | .error _ => []
      | .ok reading =>
          ((valueOf? reading.options .dotenv).filter (· != "")).getD ".env" ::
            ((valueOf? reading.options .out).filter (· != "")).toList

/-- What stands at a path: a file, nothing, or else a directory. -/
def probe (name : String) : IO (Option FileItem) := do
  try
    return some (.file (← IO.FS.readFile name))
  catch error =>
    match error with
    | .noFileOrDirectory .. => return none
    | _ => return some .directory

/-- What stands at a path and on the way to it. -/
def explore (tree : FileTree) (path : Path) : IO FileTree := do
  let mut tree := tree
  for place in (FileTree.parents path).drop 1 ++ [path] do
    if (tree.find? place).isNone then
      if let some item ← probe (place.text ".") then tree := tree.insert place item
  return tree

/-- Run the program on this machine. -/
def runHere (arguments : List String) : IO UInt32 := do
  let mut environment := []
  for name in knownVariables do
    if let some value ← IO.getEnv name then environment := environment ++ [(name, value)]
  let workingDirectory := toString (← IO.currentDir)
  let mut files := FileTree.standard
  for name in namedPaths arguments do
    files ← explore files (Path.resolve workingDirectory name)
  let machine : Machine :=
    { environment
      files
      workingDirectory
      connection := .refused "connections to a chain are not available"
      colours := false }
  let report := Command.run machine arguments
  for (path, content) in FileTree.changes files report.files do
    IO.FS.writeFile (path.text ".") content
  (← IO.getStdout).putStr (report.on .output)
  (← IO.getStderr).putStr (report.on .error)
  return UInt32.ofNat report.exitCode

end Rollout

/-- The entry point. -/
def main (arguments : List String) : IO UInt32 := Rollout.runHere arguments
