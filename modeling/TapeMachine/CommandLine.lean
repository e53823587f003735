import TapeMachine.CommandLine.Options
import TapeMachine.Program.File
import TapeMachine.Program.Stored
import TapeMachine.Session
import TapeMachine.Text.Spelled

/-!
# The command line

An invocation reads the words of its command line, then stores a program, executes one, or says
why it does not. It is a function of the words and of the files, the input and the output that it
finds, and its result holds what it leaves of them.

Results:
1. `run_help`, `run_usage`: help and a usage error leave the files and the input alone.
-/

namespace TapeMachine.CommandLine

/-- What an invocation finds, and what it leaves. -/
structure Surroundings where
  files : FileTree
  input : Input
  output : Output
  /-- What has been written to the error stream. -/
  errors : String
deriving DecidableEq

/-- How an invocation ends. -/
inductive Ending
  /-- With an exit status. -/
  | exit (status : Nat)
  /-- With a failure that nothing in the invocation deals with. -/
  | escaped (failure : Failure)
deriving DecidableEq, Repr

/-! ## Texts -/

/-- The name under which the command shows itself. -/
def commandName : String := "tapevm"

/-- How the command is used, in three lines. -/
def usage : String :=
  "usage: tapevm [-h] [-v]\n" ++
  "              [--emit-program SOURCE_FILE | --program PROGRAM_JSON_FILE]\n" ++
  "              [source]\n"

/-- The help in full. -/
def help : String :=
  usage ++ "\n" ++
  "Tape machine interpreter\n" ++
  "\n" ++
  "positional arguments:\n" ++
  "  source                program source file to execute\n" ++
  "\n" ++
  "options:\n" ++
  "  -h, --help            show this help message and exit\n" ++
  "  -v                    increase debug verbosity (can be repeated)\n" ++
  "  --emit-program SOURCE_FILE\n" ++
  "                        emit program JSON for the given source file\n" ++
  "  --program PROGRAM_JSON_FILE\n" ++
  "                        execute a program from a JSON file\n"

/-- The report of a usage error. -/
def usageReport (error : UsageError) : Text :=
  usage ++ commandName ++ ": error: " ++ error.message ++ "\n"

/-- The report of a file that cannot be used, with the reason and the path as it is shown. -/
def errorReport (reason path : Text) : Text :=
  "Error: " ++ reason ++ ": " ++ path ++ "\n"

/-- The report of a fault. -/
def faultReport (fault : Fault) : Text :=
  "Runtime error: " ++ fault.report.summary ++ "\n"

/-- The name of the file that logs are written to. -/
def logFile : Text := "debug.txt"

/-- What is put behind the name of a source file to name the file that its program is stored in. -/
def storedSuffix : Text := ".program.json"

/-- The stored program in what was read of its file, or the reason why there is none. -/
def storedProgram : Except OpenError (List UInt8) → Except Text Program
  | .error (.system error) => .error error.reason
  | .error error => .error error.message
  | .ok content => (Program.ofJsonBytes content).mapError fun error => error.message

/-! ## Parts of an invocation -/

/-- What an invocation leaves, and how it ends. -/
abbrev Result := Surroundings × Ending

namespace Surroundings

/-- Ends with a report on the error stream and an exit status. -/
def fail (w : Surroundings) (report : Text) (status : Nat) : Result :=
  ({ w with errors := w.errors ++ Text.spelled report }, .exit status)

/-- Shows the help. That it cannot be written is not reported. -/
def showHelp (w : Surroundings) : Result :=
  match w.output.write (Utf8.encodeString help) with
  | .ok output => ({ w with output := output }, .exit 0)
  | .error _ => (w, .exit 0)

/-- Prints a line. The line end is written by itself. -/
def printLine (w : Surroundings) (line : Text) : Result :=
  match Utf8.encodeText line with
  | .error refusal => (w, .escaped (.unencodable refusal))
  | .ok bytes =>
    match w.output.write bytes with
    | .error error => (w, .escaped (.system error))
    | .ok output =>
      match output.write (Utf8.encodeString "\n") with
      | .error error => ({ w with output := output }, .escaped (.system error))
      | .ok output => ({ w with output := output }, .exit 0)

/-- Ends because a source file cannot be opened. -/
def failToOpen (w : Surroundings) (path : Path) : OpenError → Result
  | .system error => w.fail (errorReport error.reason path.text) 1
  | error => (w, .escaped (.ofOpenError error))

/-- Stores the program of a source file in a file beside it, and prints that file's name. -/
def emit (w : Surroundings) (path : Path) : Result :=
  match Program.ofFile w.files path.text with
  | .error error => w.failToOpen path error
  | .ok program =>
    let target := path.extend storedSuffix
    match w.files.locateForWriting target.text with
    | .error error => (w, .escaped (.ofOpenError error))
    | .ok place =>
      { w with files := w.files.put place program.toJsonBytes }.printLine target.text

/-- Ends an execution as its run ended. -/
def conclude (w : Surroundings) : Answer → Result
  | .failed (.fault fault) => w.fail (faultReport fault) 1
  | .failed (.system error) => w.fail (errorReport error.reason (error.file?.getD "output")) 1
  | .failed failure => (w, .escaped failure)
  | _ => (w, .exit 0)

/-- Executes a program, logging at a level of detail. There is no result if the fuel runs out. -/
def execute (w : Surroundings) (program : Program) (verbosity fuel : Nat) : Option Result :=
  let session := Session.start program w.input w.output verbosity logFile w.files
  (session.run fuel).map fun (session, answer) =>
    { w with
      files := session.files
      input := session.machine.input
      output := session.machine.output }.conclude answer

/-- Executes the program of a source file. -/
def executeSource (w : Surroundings) (path : Path) (verbosity fuel : Nat) : Option Result :=
  match Program.ofFile w.files path.text with
  | .error error => some (w.failToOpen path error)
  | .ok program => w.execute program verbosity fuel

/-- Executes a stored program. Whatever is wrong with its file is reported. -/
def executeStored (w : Surroundings) (path : Path) (verbosity fuel : Nat) : Option Result :=
  match storedProgram (w.files.read path.text) with
  | .error reason => some (w.fail (errorReport reason path.text) 1)
  | .ok program => w.execute program verbosity fuel

end Surroundings

/-! ## Invocations -/

/-- Does what is asked for. -/
def perform (w : Surroundings) (fuel : Nat) : Request → Option Result
  | .help => some w.showHelp
  | .usage error => some (w.fail (usageReport error) 2)
  | .emit path => some (w.emit (.ofText path))
  | .executeStored path verbosity => w.executeStored (.ofText path) verbosity fuel
  | .executeSource path verbosity => w.executeSource (.ofText path) verbosity fuel

/-- An invocation with some words, on what it finds. There is no result if the fuel runs out before
the program that it executes has ended. -/
def run (words : List Text) (w : Surroundings) (fuel : Nat) : Option Result :=
  perform w fuel (request words)

theorem run_usage {words : List Text} {error : UsageError}
    (wrong : request words = .usage error) (w : Surroundings) (fuel : Nat) :
    run words w fuel =
      some ({ w with errors := w.errors ++ Text.spelled (usageReport error) }, .exit 2) := by
  simp [run, perform, wrong, Surroundings.fail]

theorem run_help {words : List Text} (asked : request words = .help) (w : Surroundings)
    (fuel : Nat) : ∃ after, run words w fuel = some (after, .exit 0) ∧
      after.files = w.files ∧ after.input = w.input ∧ after.errors = w.errors := by
  simp only [run, perform, asked, Surroundings.showHelp]
  split <;> exact ⟨_, rfl, rfl, rfl, rfl⟩

end TapeMachine.CommandLine
