import LogMarkup.CommandLine

/-!
# The program

Hands arguments, files and the standard input to a run of the program, and writes what the run
prints and logs. The environment variable `LOG_LEVEL` set to `debug` asks for the log entries of
that level too.
-/

open LogMarkup LogMarkup.CommandLine

def levelLabel : Level → String
  | .debug => "DEBUG"
  | .warn => "WARN"

/-- Reads the whole of a stream. -/
partial def readAll (stream : IO.FS.Stream) (read : ByteArray) : IO ByteArray := do
  let chunk ← stream.read 65536
  if chunk.isEmpty then return read
  readAll stream (read ++ chunk)

/-- Reads the files of a run that there are. -/
def readFiles (names : List Text) : IO (List (Text × ByteArray)) := do
  let contents ← names.mapM fun name => do
    try
      let content ← IO.FS.readBinFile (String.ofList name)
      pure (some (name, content))
    catch _ => pure none
  return contents.filterMap id

def main (args : List String) : IO UInt32 := do
  let args := args.map String.toList
  let names := match Request.ofArguments args with
    | some (.run invocation) => invocation.files
    | _ => []
  let files ← readFiles names
  let readsInput := match Request.ofArguments args with
    | some (.run invocation) => invocation.files.isEmpty
    | _ => false
  let input ← if readsInput then readAll (← IO.getStdin) .empty else pure .empty
  let level := if (← IO.getEnv "LOG_LEVEL") = some "debug" then Level.debug else Level.warn
  let result := run ⟨fun name => (files.find? (·.1 = name)).map (·.2), input, level⟩ args
  IO.print (String.ofList result.printed)
  let stderr ← IO.getStderr
  for entry in result.log do
    stderr.putStrLn ("[" ++ levelLabel entry.level ++ "] " ++ String.ofList entry.text)
  stderr.putStr (String.ofList result.report)
  return result.code.toUInt32
