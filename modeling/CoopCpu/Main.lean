import CoopCpu.CommandLine
/-!
# Main — the program

Reads files and keys, and leaves everything else to `CommandLine`.  Keys are read by a task of their own, so that a
program that waits for nothing is not held up; before each tick the keys that have come in are handed to the machine.
-/
namespace CoopCpu
namespace CommandLine

/-- What a failed access to a file is reported as. -/
def fileError (e : IO.Error) : FileError :=
  match e with
  | .noFileOrDirectory _ code _ => .refused "No such file or directory" code.toNat
  | .permissionDenied _ code _ => .refused "Permission denied" code.toNat
  | .inappropriateType _ code _ => .refused "Is a directory" code.toNat
  | .otherError code details => .refused details code.toNat
  | _ => .refused (toString e) 0

/-- Reads a whole file. -/
def readWhole (path : String) : IO (Except FileError ByteArray) := do
  try return .ok (← IO.FS.readBinFile path)
  catch e => return .error (fileError e)

/-- Writes a whole file. -/
def writeWhole (path text : String) : IO (Except FileError Unit) := do
  try
    IO.FS.writeFile path text
    return .ok ()
  catch e => return .error (fileError e)

/-- Keys that have been read and not been handed on, and whether the input has ended. -/
abbrev KeyQueue := IO.Ref (List Byte × Bool)

/-- Reads keys until the input ends. -/
partial def collectKeys (queue : KeyQueue) (input : IO.FS.Stream) : IO Unit := do
  let bytes ← input.read 1
  if bytes.isEmpty then queue.modify fun q => (q.1, true)
  else
    queue.modify fun q => (q.1 ++ bytes.toList, q.2)
    collectKeys queue input

/-- Ticks until the machine halts, showing keys as they are served. -/
partial def runLive (queue : KeyQueue) (output : IO.FS.Stream) (m : Machine) : IO Machine := do
  if m.halted then return m
  let (keys, ended) ← queue.modifyGet fun q => (q, ([], q.2))
  let m := typeKeys keys m
  let m := (if ended then endKeys m else m).tick
  match shownKeys m with
  | [] => runLive queue output m
  | shown =>
    output.write ⟨shown.toArray⟩
    output.flush
    runLive queue output (clearShown m)

end CommandLine
end CoopCpu

open CoopCpu CommandLine in
/-- Runs an image given on the command line. -/
def main (arguments : List String) : IO UInt32 := do
  let base ← IO.getEnv Config.baseKey
  let table ← IO.getEnv Config.tableKey
  let dump ← IO.getEnv Config.dumpKey
  let setting (key : String) : Option String :=
    if key = Config.baseKey then base else if key = Config.tableKey then table else dump
  let leave (exit : Exit) : IO UInt32 := do
    (← IO.getStderr).putStr exit.errors
    return exit.code
  match Session.configure arguments setting with
  | .error exit => leave exit
  | .ok (given, config) =>
    let image ← readWhole given.imagePath
    let tableFile ← readWhole (config.tablePath.getD "")
    match Session.prepare given config fun path => if path = given.imagePath then image else tableFile with
    | .error exit => leave exit
    | .ok machine =>
      let queue : KeyQueue ← IO.mkRef ([], false)
      let input ← IO.getStdin
      let _ ← IO.asTask (collectKeys queue input) Task.Priority.dedicated
      let output ← IO.getStdout
      let halted ← runLive queue output machine
      output.putStr (Session.verdict halted)
      output.flush
      match ({ config, machine := halted } : Session).dump? with
      | none => leave Exit.success
      | some (path, text) => leave (Session.finish (← writeWhole path text))
