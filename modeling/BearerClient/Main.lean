import BearerClient.Disk.Image
import BearerClient.Program
import Std.Time.DateTime.Timestamp

/-!
# The command line

The outer layer of the program: it collects what a run depends on, runs the program, writes back
what has changed and prints. There is no network behind it, so a connection is refused wherever it
goes.
-/

namespace BearerClient.Program

open CommandLine (Environment)

/-- The time now. -/
def currentTime : IO Timestamp := do
  let sinceEpoch := (← Std.Time.Timestamp.now).toNanosecondsSinceUnixEpoch.val
  return ⟨sinceEpoch / 1000000000, (sinceEpoch % 1000000000).toNat, false⟩

/-- The values of variables. -/
def readVariables (names : List String) : IO Environment :=
  names.eraseDups.filterMapM fun name => do
    return (← IO.getEnv name).map fun value => (name, value)

/-- The first file that can be read. -/
def readFirst : List String → IO (Option String)
  | [] => return none
  | path :: paths => do
    try
      return some (← IO.FS.readFile path)
    catch _ => readFirst paths

/-- The environment of a run in a directory, with the variables of the nearest environment file. -/
def readEnvironment (here : Location) : IO Environment := do
  let file ← readFirst ((Disk.upward here ++ [[]]).filterMap fun directory =>
    Disk.pathText? (directory ++ [bytesOf ".env"]))
  let names := Settings.variableNames ++ CommandLine.DotEnv.mentionedNames (file.getD "")
  return Machine.environment (← readVariables names) file

/-- What stands at a path. -/
def readNode (path : String) : IO (Option Node) := do
  try
    if ← (← IO.FS.realPath path).isDir then
      return some .directory
    return some (.ofContents (← IO.FS.readBinFile path))
  catch _ => return none

/-- What stands at the given locations. -/
def readDisk (locations : List Location) : IO Disk := do
  let nodes ← locations.mapM fun location => do
    let node ← match Disk.pathText? location with
      | some path => readNode path
      | none => pure none
    return node.map fun node => (location, node)
  return ⟨nodes.filterMap id⟩

/-- Makes the file system show what stands at a path. -/
def writeNode (path : String) : Option Node → IO Unit
  | none => IO.FS.removeFile path
  | some .directory => IO.FS.createDir path
  | some (.file _) => IO.FS.writeFile path ""
  | some (.database db) => IO.FS.writeFile path db.text

/-- Runs the program in a directory. -/
def runIn (here : Location) (arguments : List String) : IO Output := do
  let env ← readEnvironment here
  let disk ← readDisk (Disk.relevant here ((sessionFile? env arguments).getD ""))
  let machine : Machine :=
    { disk := disk
      here := here
      now := (← currentTime).text
      backend := ⟨none, [], []⟩ }
  let (output, _, after) := machine.run env arguments
  for (location, node) in Disk.changes disk after.disk do
    if let some path := Disk.pathText? location then
      writeNode path node
  return output

end BearerClient.Program

/-- Runs the program in the working directory, prints, and gives the exit code. -/
def main (arguments : List String) : IO UInt32 := do
  let here := BearerClient.Disk.locationOf (← IO.FS.realPath ".").toString
  let output ← BearerClient.Program.runIn here arguments
  IO.print output.out
  IO.eprint output.err
  return .ofNat output.code
