import Hostcall.CommandLine.Run

/-!
# The program

The command line over the real host: the files that a request leads to are taken up, the run is carried
out on them, and what it changed and wrote is brought back.
-/

namespace Hostcall.CommandLine

/-- The variables that the program looks at. -/
def knownVariables : List String :=
  ["SIMIO_TRACE", "SIMIO_TRACE_SYSCALL", "SIMIO_TRACE_CHANNEL", "SIMIO_TRACE_COALESCE"]

def currentEnvironment : IO Environment := do
  let found ← knownVariables.mapM fun name => do
    return (← IO.getEnv name).map (name, ·)
  return found.filterMap id

/-- Takes up a path of the host and the directories on its way. -/
def takeUp (d : Disk) (path : String) : IO Disk := do
  let here ← IO.currentDir
  let mut disk := d
  let mut place := if Path.isAbsolute path then [] else d.home
  let mut walked := if Path.isAbsolute path then "/" else ""
  for name in Path.names path do
    walked := walked ++ name
    place := Disk.enter place name
    if (disk.node? place).isNone then
      let file := here / walked
      if ← file.isDir then
        disk := disk.addDirectory place
      else if ← file.pathExists then
        let (next, id) := disk.addFile place
        disk := next.setBody id (← IO.FS.readBinFile file).toList
    walked := walked ++ "/"
  return disk

/-- Brings the file at a path back to the host if it has changed. -/
def bringBack (before after : Disk) (path : String) : IO Unit := do
  match after.contentAt path with
  | .error _ => return
  | .ok content =>
    if (before.contentAt path).toOption = some content then return
    IO.FS.writeBinFile path ⟨content.toArray⟩

/-- Reads a stream to its end. -/
partial def readAll (input : IO.FS.Stream) (found : ByteArray) : IO ByteArray := do
  let block ← input.read 8192
  if block.isEmpty then return found
  readAll input (found ++ block)

/-- The standard input as a run finds it; one that cannot be read is a directory. -/
def standardInput (needed : Bool) : IO Console.Supply := do
  if !needed then return .bytes []
  try
    return .bytes (← readAll (← IO.getStdin) .empty).toList
  catch _ => return .broken .isDirectory

end Hostcall.CommandLine

open Hostcall Hostcall.CommandLine

/-- Runs the program on its arguments. -/
def main (args : List String) : IO UInt32 := do
  let home := Path.names (← IO.currentDir).toString
  let request? := match Request.parse args with
    | some (.run r) => some r
    | _ => none
  let mut disk := { Disk.ofHome home with grounds := [[]] }
  let mut reach : List String := []
  if let some r := request? then
    for path in r.files do
      disk ← takeUp disk path
    reach := r.reach disk
    for path in reach do
      disk ← takeUp disk path
  let input ← standardInput (request?.any (·.input.isNone))
  let ending := run
    { disk, input, environment := ← currentEnvironment, directives := ← IO.getEnv "RUST_LOG" } args
  for path in reach do
    bringBack disk ending.disk path
  let output ← IO.getStdout
  output.write ⟨ending.output.received.toArray⟩
  output.flush
  let error ← IO.getStderr
  error.putStr ending.error
  error.flush
  return ending.status.toUInt32
