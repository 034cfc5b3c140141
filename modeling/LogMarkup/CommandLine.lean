import LogMarkup.CommandLine.Commands
import LogMarkup.CommandLine.Terminal

/-!
# The command line program

A run of the program, given what it can read: its arguments, the files by name and the standard
input. It prints, logs and ends with an exit code; a failure is reported as an error.
-/

namespace LogMarkup.CommandLine

/-- All that a run can read. -/
structure World where
  /-- The content of a file, if there is one of the name. -/
  file : Text → Option ByteArray
  input : ByteArray
  /-- The least level that is logged. -/
  level : Level

structure Exit where
  code : Nat
  printed : Text
  log : List LogEntry
  /-- The report about the failure that ended the run. -/
  report : Text

/-- The name of the program and its version. -/
def versionLine : Text := "sllm 0.1.0\n".toList

def usage : Text :=
  ("Usage: sllm [--strict] names [FILES]\n" ++
    "       sllm [--strict] filter --name NAMES [FILES]\n" ++
    "       sllm [--strict] json [FILES]\n").toList

/-- The name of the standard input in messages. -/
def inputName : Text := "<stdin>".toList

/-- Goes through the lines of one file. -/
def runFile (world : World) (invocation : Invocation) (name : Text) : Outcome Unit :=
  match world.file name with
  | none =>
    .fail ⟨"failed to open ".toList ++ name, "No such file or directory (os error 2)".toList⟩
  | some content => invocation.command.run invocation.strict name (.ofBytes content)

/-- Goes through files one after another. -/
def runFiles (world : World) (invocation : Invocation) : List Text → Outcome Unit
  | [] => .done ()
  | name :: rest => do
    runFile world invocation name
    runFiles world invocation rest

/-- Goes through the files, or through the standard input if there are none. -/
def Invocation.run (world : World) (invocation : Invocation) : Outcome Unit :=
  if invocation.files.isEmpty then
    invocation.command.run invocation.strict inputName (.ofBytes world.input)
  else runFiles world invocation invocation.files

/-- Is an entry of a level logged where `least` is the least level? -/
def Level.isLogged (least : Level) : Level → Bool
  | .warn => true
  | .debug => least = .debug

/-- What an outcome shows. The log leaves out what would steer the terminal. -/
def Exit.ofOutcome (least : Level) (x : Outcome Unit) : Exit :=
  let logged := x.log.filter fun entry => least.isLogged entry.level
  let log := logged.map fun entry => { entry with text := shown entry.text }
  match x.result with
  | .ok _ => ⟨0, x.printed, log, []⟩
  | .error failure => ⟨1, x.printed, log, failure.report⟩

/-- A run of the program. -/
def run (world : World) (args : List Text) : Exit :=
  match Request.ofArguments args with
  | none => ⟨2, [], [], usage⟩
  | some .version => ⟨0, versionLine, [], []⟩
  | some .help => ⟨0, usage, [], []⟩
  | some (.run invocation) => .ofOutcome world.level (invocation.run world)

end LogMarkup.CommandLine
